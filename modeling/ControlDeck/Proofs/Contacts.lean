import ControlDeck.Dispatch.Clock
import ControlDeck.Proofs.Replaying

/-!
# Contacts with the backend

What a feeder asks of its backend, call by call. Every operation of a feeder is a short script of
calls, of which the first one that fails is the last one made.

- **Contacts** (`Contact`): calls with their answers. `Backend.make` makes any call that a fault can
  meet, and `Feeder.ask` also draws the conclusion for the devices that the feeder holds.
- **Scripts** (`Script`, `Script.play`): calls of which the next one may depend on what the last one
  read, and the contacts that come of it.
- **Played scripts** (`Feeder.Plays`): an operation leads to the feeder that a script leads to, and
  warns of the calls that fail there, and of nothing else.
- **Touches** (`Touch`, `Manual.touch`): what can be asked of a feeder that is driven by hand, and
  what comes of it.
- `Manual.touch_plays`, `Manual.touch_answer`: a touch plays its script.
-/

namespace ControlDeck

namespace Logged

variable {α β : Type}

/-- The warnings among the records of a computation. -/
def warnings (x : Logged α) : List Record := x.records.filter (·.level = .warn)

@[simp] theorem warnings_pure (a : α) : (pure a : Logged α).warnings = [] := rfl

@[simp] theorem warnings_bind (x : Logged α) (f : α → Logged β) :
    (x >>= f).warnings = x.warnings ++ (f x.value).warnings := by
  rw [warnings, records_bind, List.filter_append]
  rfl

end Logged

namespace Device

/-- The device that an operation is about. -/
def Operation.device : Operation → UInt32
  | .acquire device | .relinquish device | .setAxis device .. | .setHat device ..
  | .setAvailable device _ => device
  | .setButton k _ | .buttonState k => k.device

/-! ## Single calls -/

namespace Backend

/-- Makes a call that a fault can meet. -/
def make (b : Backend) (c : Operation) : Answer × Backend :=
  match b.fault? with
  | some message => (.error (.backend message), b.passed)
  | none => ((b.joystick.operate c).1, { b.passed with joystick := (b.joystick.operate c).2 })

variable {b : Backend} {c : Operation}

/-- A call warns of what the joystick warns of. -/
theorem warnings_call {α : Type}
    {operation : Joystick → Logged (Except DeviceError (α × Joystick))}
    (h : (operation b.joystick).warnings = []) : (b.call operation).warnings = [] := by
  unfold call
  cases b.fault? with
  | some message => rfl
  | none =>
    rw [Logged.warnings_bind, h]
    split <;> rfl

/-- Taking a device warns of nothing. -/
theorem warnings_acquire (b : Backend) (d : UInt32) : (b.acquire d).warnings = [] := by
  refine warnings_call ?_
  rw [Logged.warnings_bind, Logged.warnings_pure, List.append_nil]
  unfold Joystick.acquire
  cases b.joystick.available.contains d <;> cases b.joystick.isAcquired d <;> rfl

/-- A call is made by `make` if the joystick does for it what `Joystick.operate` says. -/
theorem value_call_eq_make {α : Type}
    {operation : Joystick → Logged (Except DeviceError (α × Joystick))} {read : Option Bool → α}
    (ho : (operation b.joystick).value =
      (b.joystick.operate c).1.map fun r => (read r, (b.joystick.operate c).2)) :
    (b.call operation).value = ((b.make c).1.map read, (b.make c).2) := by
  rw [value_call, make]
  cases b.fault? with
  | some message => rfl
  | none =>
    simp only [ho]
    cases hc : (b.joystick.operate c).1 with
    | ok r => rfl
    | error e =>
      rw [Joystick.operate_of_error hc, ← passed_joystick]
      rfl

/-- Nothing is read by a call that only changes the joystick. -/
theorem changed_eq_map (j : Joystick) (outcome : Except DeviceError Joystick) :
    outcome.map ((), ·) = (j.changed outcome).1.map fun _ => ((), (j.changed outcome).2) := by
  cases outcome <;> rfl

variable (b)

theorem acquire_eq_make (d : UInt32) :
    (b.acquire d).value = ((b.make (.acquire d)).1.map fun _ => (), (b.make (.acquire d)).2) :=
  value_call_eq_make (changed_eq_map ..)

theorem setButton_eq_make (k : ButtonKey) (down : Bool) :
    (b.setButton k down).value =
      ((b.make (.setButton k down)).1.map fun _ => (), (b.make (.setButton k down)).2) :=
  value_call_eq_make (changed_eq_map ..)

theorem setAxis_eq_make (d : UInt32) (axis : Axis) (value : Int32) :
    (b.setAxis d axis value).value =
      ((b.make (.setAxis d axis value)).1.map fun _ => (), (b.make (.setAxis d axis value)).2) :=
  value_call_eq_make (changed_eq_map ..)

theorem setHat_eq_make (d : UInt32) (hat : UInt8) (position : Hat) :
    (b.setHat d hat position).value =
      ((b.make (.setHat d hat position)).1.map fun _ => (),
        (b.make (.setHat d hat position)).2) :=
  value_call_eq_make (changed_eq_map ..)

theorem buttonState_eq_make (k : ButtonKey) :
    (b.buttonState k).value =
      ((b.make (.buttonState k)).1.map (·.getD false), (b.make (.buttonState k)).2) := by
  refine value_call_eq_make ?_
  simp only [Logged.value_pure, Joystick.operate]
  cases b.joystick.buttonState k <;> rfl

end Backend

namespace Feeder

/-- The devices that are held after a call: one that was acquired is, and one that was lost is not
any more. -/
def learn (held : DeviceSet) : Operation → Answer → DeviceSet
  | .acquire device, .ok _ => held.insert device
  | .acquire _, .error _ => held
  | c, .error (.notAcquired _) => held.erase c.device
  | _, _ => held

/-- Makes a call and takes note of its answer. -/
def ask (f : Feeder) (c : Operation) : Answer × Feeder :=
  ((f.backend.make c).1, ⟨(f.backend.make c).2, learn f.held c (f.backend.make c).1⟩)

end Feeder

/-! ## Scripts -/

/-- A call and its answer. -/
structure Contact where
  call : Operation
  answer : Answer

namespace Contact

/-- Whether the call failed. -/
def failed (x : Contact) : Bool := !x.answer.isOk

/-- Whether the call failed because the device had been lost. -/
def lost (x : Contact) : Bool :=
  match x.answer with
  | .error (.notAcquired _) => true
  | _ => false

/-- Whether the call met a fault. -/
def faulted (x : Contact) : Bool :=
  match x.answer with
  | .error (.backend _) => true
  | _ => false

/-- The warning that the call gives rise to if it failed. -/
def warning? (x : Contact) : Option Record :=
  match x.answer with
  | .ok _ => none
  | .error e =>
    match x.call with
    | .acquire device => some (Notice.skipped device e)
    | c => some (Notice.rejected c.device e)

/-- What the call read, if anything. -/
def read? (x : Contact) : Option Bool :=
  match x.answer with
  | .ok down? => down?
  | .error _ => none

end Contact

/-- Calls, one after the other. The next one may depend on what the last one read. -/
inductive Script
  | done
  | ask (call : Operation) (next : Option Bool → Script)

namespace Script

/-- The script of a single call. -/
def one (call : Operation) : Script := .ask call fun _ => .done

/-- Plays a script up to the first call that fails. -/
def play : Script → Feeder → List Contact × Feeder
  | .done, f => ([], f)
  | .ask call next, f =>
    match (f.ask call).1 with
    | .ok down? =>
      let (rest, g) := (next down?).play (f.ask call).2
      (⟨call, .ok down?⟩ :: rest, g)
    | .error e => ([⟨call, .error e⟩], (f.ask call).2)

variable {f : Feeder} {call : Operation} {next : Option Bool → Script}

/-- A call that succeeds is followed by the rest of the script. -/
theorem play_of_ok {down? : Option Bool} (h : (f.ask call).1 = .ok down?) :
    (Script.ask call next).play f =
      (⟨call, .ok down?⟩ :: ((next down?).play (f.ask call).2).1,
        ((next down?).play (f.ask call).2).2) := by
  simp only [play, h]

/-- A call that fails is the last one. -/
theorem play_of_error {e : DeviceError} (h : (f.ask call).1 = .error e) :
    (Script.ask call next).play f = ([⟨call, .error e⟩], (f.ask call).2) := by
  simp only [play, h]

theorem play_one (f : Feeder) (call : Operation) :
    (one call).play f = ([⟨call, (f.ask call).1⟩], (f.ask call).2) := by
  cases h : (f.ask call).1 with
  | ok down? => exact play_of_ok h
  | error e => exact play_of_error h

end Script

/-! ## What a feeder asks -/

namespace Feeder

variable {f : Feeder} {d : UInt32}

/-- A script for a device starts with acquiring it, unless it is held. -/
def holding (f : Feeder) (d : UInt32) (s : Script) : Script :=
  if f.held.contains d then s else .ask (.acquire d) fun _ => s

theorem play_holding_of_held (h : f.held.contains d = true) (s : Script) :
    (f.holding d s).play f = s.play f := by
  rw [holding, if_pos h]

/-- A device that was acquired is held. -/
theorem held_ask_acquire {down? : Option Bool} (h : (f.ask (.acquire d)).1 = .ok down?) :
    (f.ask (.acquire d)).2.held.contains d = true := by
  have hm : (f.backend.make (.acquire d)).1 = .ok down? := h
  simp [ask, learn, hm]

/-- Whether a device could be held, and the feeder then. -/
theorem ensureAcquired_value (f : Feeder) (d : UInt32) :
    (f.ensureAcquired d).value =
      if f.held.contains d then (true, f)
      else ((f.ask (.acquire d)).1.isOk, (f.ask (.acquire d)).2) := by
  unfold ensureAcquired
  split
  · rfl
  · simp only [Logged.value_bind, Backend.acquire_eq_make, ask]
    rcases (f.backend.make (.acquire d)).1 with e | r <;> rfl

/-- A device that cannot be held is warned of. -/
theorem ensureAcquired_warnings (f : Feeder) (d : UInt32) :
    (f.ensureAcquired d).warnings =
      if f.held.contains d then []
      else (Contact.mk (.acquire d) (f.ask (.acquire d)).1).warning?.toList := by
  unfold ensureAcquired
  split
  · rfl
  · rw [Logged.warnings_bind, Backend.warnings_acquire, Backend.acquire_eq_make, List.nil_append]
    unfold ask Contact.warning?
    rcases (f.backend.make (.acquire d)).1 with e | r <;> rfl

/-- A computation leads to the feeder that a script led to, and warns of the contacts that failed,
and of nothing else. -/
structure Plays {α : Type} (x : Logged α) (feeder : α → Feeder) (r : List Contact × Feeder) :
    Prop where
  value : feeder x.value = r.2
  warnings : x.warnings = r.1.filterMap Contact.warning?

namespace Plays

variable {α β : Type} {x : Logged α} {r : List Contact × Feeder}

/-- Nothing that comes before without a warning matters. -/
theorem after {y : α → Logged β} {feeder : β → Feeder} (hx : x.warnings = [])
    (h : Plays (y x.value) feeder r) : Plays (x >>= y) feeder r :=
  ⟨h.value, by rw [Logged.warnings_bind, hx]; exact h.warnings⟩

/-- The feeder may be returned along with something else. -/
theorem returned {g : α → β} {feeder : β → Feeder} (h : Plays x (fun a => feeder (g a)) r) :
    Plays (x >>= fun a => pure (g a)) feeder r :=
  ⟨h.value, by
    rw [Logged.warnings_bind, Logged.warnings_pure, List.append_nil]; exact h.warnings⟩

/-- A contact that did not fail may come before. -/
theorem cons {feeder : α → Feeder} {call : Operation} {down? : Option Bool}
    (h : Plays x feeder r) : Plays x feeder (⟨call, .ok down?⟩ :: r.1, r.2) :=
  ⟨h.value, h.warnings⟩

end Plays

/-- A script for a device goes on if the device could be held, and else ends with acquiring it. -/
theorem ensureAcquired_cases (f : Feeder) (d : UInt32) (s : Script) :
    (∃ g log, (f.ensureAcquired d).value = (true, g) ∧ (f.ensureAcquired d).warnings = [] ∧
      g.held.contains d = true ∧ log.filterMap Contact.warning? = [] ∧
      (f.holding d s).play f = (log ++ (s.play g).1, (s.play g).2)) ∨
    ∃ g e, (f.ensureAcquired d).value = (false, g) ∧
      (f.ensureAcquired d).warnings = [Notice.skipped d e] ∧
      (f.holding d s).play f = ([⟨.acquire d, .error e⟩], g) := by
  rw [ensureAcquired_value, ensureAcquired_warnings, holding]
  cases hh : f.held.contains d with
  | true => exact .inl ⟨f, [], rfl, rfl, hh, rfl, rfl⟩
  | false =>
    simp only [Bool.false_eq_true, ↓reduceIte]
    cases ha : (f.ask (.acquire d)).1 with
    | ok down? =>
      exact .inl ⟨_, [⟨.acquire d, .ok down?⟩], rfl, rfl, held_ask_acquire ha, rfl,
        Script.play_of_ok ha⟩
    | error e => exact .inr ⟨_, e, rfl, rfl, Script.play_of_error ha⟩

/-- What does nothing but with a device that could be held plays a script that starts with acquiring
it. -/
theorem ensured_plays {α : Type} {s : Script} {next : Bool × Feeder → Logged α}
    {feeder : α → Feeder}
    (hs : ∀ g, Plays (next (false, g)) feeder (Script.done.play g))
    (hn : ∀ g : Feeder, g.held.contains d = true → Plays (next (true, g)) feeder (s.play g))
    (f : Feeder) : Plays (f.ensureAcquired d >>= next) feeder ((f.holding d s).play f) := by
  obtain ⟨g, log, hv, hw, hh, hl, hp⟩ | ⟨g, e, hv, hw, hp⟩ := f.ensureAcquired_cases d s
  · rw [hp]
    refine .after hw ?_
    rw [hv]
    refine ⟨(hn g hh).value, ?_⟩
    rw [List.filterMap_append, hl]
    exact (hn g hh).warnings
  · rw [hp]
    refine ⟨?_, ?_⟩
    · rw [Logged.value_bind, hv]
      exact (hs g).value
    · rw [Logged.warnings_bind, hw, hv, (hs g).warnings]
      rfl

/-- What is done with a device that could be held plays a script that starts with acquiring it. -/
theorem withDevice_plays {s : Script} {write : Feeder → Logged Feeder}
    (hw : ∀ g : Feeder, g.held.contains d = true → Plays (write g) id (s.play g)) (f : Feeder) :
    Plays (f.withDevice d write) id ((f.holding d s).play f) :=
  ensured_plays (fun _ => ⟨rfl, rfl⟩) hw f

/-- A call that succeeds, unless it acquires, teaches nothing. -/
theorem learn_ok {c : Operation} (hc : ∀ o, c ≠ .acquire o) (held : DeviceSet)
    (down? : Option Bool) : learn held c (.ok down?) = held := by
  cases c with
  | acquire o => exact absurd rfl (hc o)
  | _ => rfl

/-- Absorbing the error of a call, unless it acquires, plays the script of that call. -/
theorem absorb_plays {c : Operation} (hc : ∀ o, c ≠ .acquire o) {f : Feeder} {e : DeviceError}
    (h : (f.ask c).1 = .error e) (next : Option Bool → Script) :
    Plays (({ f with backend := (f.backend.make c).2 } : Feeder).absorb c.device e) id
      ((Script.ask c next).play f) := by
  have hm : (f.backend.make c).1 = .error e := h
  rw [Script.play_of_error h, ask, hm]
  cases c with
  | acquire o => exact absurd rfl (hc o)
  | _ => cases e <;> exact ⟨rfl, rfl⟩

/-- Settling the outcome of a write plays the script of that write. -/
theorem settle_plays {c : Operation} (hc : ∀ o, c ≠ .acquire o) (f : Feeder) :
    Plays (f.settle c.device ((f.backend.make c).1.map fun _ => (), (f.backend.make c).2)) id
      ((Script.one c).play f) := by
  unfold settle
  cases ha : (f.ask c).1 with
  | ok down? =>
    have hm : (f.backend.make c).1 = .ok down? := ha
    rw [Script.one, Script.play_of_ok ha, ask, hm, learn_ok hc]
    exact ⟨rfl, rfl⟩
  | error e =>
    have hm : (f.backend.make c).1 = .error e := ha
    rw [hm]
    exact absorb_plays hc ha _

/-- Writing a button. -/
theorem setButton_plays (f : Feeder) (k : ButtonKey) (down : Bool) :
    Plays (f.setButton k down) id ((f.holding k.device (.one (.setButton k down))).play f) := by
  refine withDevice_plays (fun g _ => ?_) f
  refine .after rfl (.after (Backend.warnings_call rfl) ?_)
  rw [Backend.setButton_eq_make]
  exact settle_plays (c := .setButton k down) nofun g

/-- Toggling a button. -/
theorem toggle_plays (f : Feeder) (k : ButtonKey) :
    Plays (f.toggle k) id ((f.holding k.device (.ask (.buttonState k) fun down? =>
        .one (.setButton k !down?.getD false))).play f) := by
  refine withDevice_plays (fun g hg => ?_) f
  refine .after (Backend.warnings_call rfl) ?_
  rw [Backend.buttonState_eq_make]
  cases ha : (g.ask (.buttonState k)).1 with
  | ok down? =>
    have hm : (g.backend.make (.buttonState k)).1 = .ok down? := ha
    -- the device is still held when the write asks for it again
    have hh : (g.ask (.buttonState k)).2.held.contains k.device = true := by
      rw [ask, hm]
      exact hg
    have ho : (g.ask (.buttonState k)).2 =
        { g with backend := (g.backend.make (.buttonState k)).2 } := by
      rw [ask, hm]
      rfl
    have hs := setButton_plays (g.ask (.buttonState k)).2 k !down?.getD false
    rw [play_holding_of_held hh] at hs
    rw [Script.play_of_ok ha, hm]
    refine .cons ?_
    rw [ho] at hs ⊢
    exact hs
  | error e =>
    have hm : (g.backend.make (.buttonState k)).1 = .error e := ha
    rw [hm]
    exact absorb_plays (c := .buttonState k) nofun ha _

/-- Moving an axis. -/
theorem setAxis_plays (f : Feeder) (d : UInt32) (axis : Axis) (position : Float) :
    Plays (f.setAxis d axis position) id
      ((f.holding d (.one (.setAxis d axis (Axis.toDevice position)))).play f) := by
  refine withDevice_plays (fun g _ => ?_) f
  refine .after rfl (.after (Backend.warnings_call rfl) ?_)
  rw [Backend.setAxis_eq_make]
  exact settle_plays (c := .setAxis d axis (Axis.toDevice position)) nofun g

/-- Moving a hat. -/
theorem setHat_plays (f : Feeder) (d : UInt32) (hat : UInt8) (position : Hat) :
    Plays (f.setHat d hat position) id
      ((f.holding d (.one (.setHat d hat position))).play f) := by
  refine withDevice_plays (fun g _ => ?_) f
  refine .after (Backend.warnings_call rfl) ?_
  rw [Backend.setHat_eq_make]
  exact settle_plays (c := .setHat d hat position) nofun g

/-- What the last contact read; a button that could not be read is up. -/
def lastRead (log : List Contact) : Bool := (log.getLast?.bind Contact.read?).getD false

/-- Reading a button. -/
theorem buttonState_plays (f : Feeder) (k : ButtonKey) :
    Plays (f.buttonState k) Prod.snd ((f.holding k.device (.one (.buttonState k))).play f) := by
  refine ensured_plays (fun _ => ⟨rfl, rfl⟩) (fun g _ => ?_) f
  refine .after (Backend.warnings_call rfl) ?_
  rw [Backend.buttonState_eq_make]
  cases ha : (g.ask (.buttonState k)).1 with
  | ok down? =>
    have hm : (g.backend.make (.buttonState k)).1 = .ok down? := ha
    rw [Script.one, Script.play_of_ok ha, ask, hm]
    exact ⟨rfl, rfl⟩
  | error e =>
    have hm : (g.backend.make (.buttonState k)).1 = .error e := ha
    rw [hm]
    exact .returned (absorb_plays (c := .buttonState k) nofun ha _)

/-- What is read of a button is what the last contact read. -/
theorem buttonState_answer (f : Feeder) (k : ButtonKey) :
    (f.buttonState k).value.1 =
      lastRead ((f.holding k.device (.one (.buttonState k))).play f).1 := by
  simp only [buttonState, Logged.value_bind, Logged.value_ite, Logged.value_pure]
  obtain ⟨g, log, hv, -, -, -, hp⟩ | ⟨g, e, hv, -, hp⟩ :=
    f.ensureAcquired_cases k.device (.one (.buttonState k))
  · rw [hv, hp, Script.play_one]
    simp only [↓reduceIte, Backend.buttonState_eq_make, lastRead, List.getLast?_concat,
      Option.bind_some, ask]
    cases (g.backend.make (.buttonState k)).1 <;> rfl
  · rw [hv, hp]
    rfl

end Feeder

/-! ## Touches -/

/-- What can be asked of a feeder with timers. -/
inductive Touch
  | press (k : ButtonKey)
  | release (k : ButtonKey)
  | toggle (k : ButtonKey)
  | buttonState (k : ButtonKey)
  | setAxis (device : UInt32) (axis : Axis) (position : Float)
  | setHat (device : UInt32) (hat : UInt8) (position : Hat)
  | pulse (k : ButtonKey) (length : Nat)

namespace Touch

/-- The button that a touch is about, if it is about one. -/
def key? : Touch → Option ButtonKey
  | .press k | .release k | .toggle k | .buttonState k | .pulse k _ => some k
  | .setAxis .. | .setHat .. => none

/-- The device that a touch is about. -/
def device : Touch → UInt32
  | .press k | .release k | .toggle k | .buttonState k | .pulse k _ => k.device
  | .setAxis device .. | .setHat device .. => device

/-- What a touch is to change of its device, if anything, when its buttons are in some state. -/
def target? (pressed : ButtonKey → Bool) : Touch → Option Change
  | .press k | .pulse k _ => some (.button k.button true)
  | .release k => some (.button k.button false)
  | .toggle k => some (.button k.button !pressed k)
  | .buttonState _ => none
  | .setAxis _ axis position => some (.axis axis (Axis.toDevice position))
  | .setHat _ hat position => some (.hat hat position)

/-- The calls of a touch once its device is held. -/
def script : Touch → Script
  | .press k | .pulse k _ => .one (.setButton k true)
  | .release k => .one (.setButton k false)
  | .toggle k => .ask (.buttonState k) fun down? => .one (.setButton k !down?.getD false)
  | .buttonState k => .one (.buttonState k)
  | .setAxis device axis position => .one (.setAxis device axis (Axis.toDevice position))
  | .setHat device hat position => .one (.setHat device hat position)

end Touch

namespace Feeder

/-- The contacts of a feeder that is touched, and the feeder after it. -/
def contacts (f : Feeder) (t : Touch) : List Contact × Feeder :=
  (f.holding t.device t.script).play f

/-- The device of a touch is held, or it cannot be acquired, or it is acquired first. -/
theorem contacts_cases (f : Feeder) (t : Touch) :
    let r := f.ask (.acquire t.device)
    f.held.contains t.device = true ∧ f.contacts t = t.script.play f ∨
    f.held.contains t.device = false ∧
      ((∃ e, r.1 = .error e ∧ f.contacts t = ([⟨.acquire t.device, .error e⟩], r.2)) ∨
        ∃ down?, r.1 = .ok down? ∧
          f.contacts t = (⟨.acquire t.device, .ok down?⟩ :: (t.script.play r.2).1,
            (t.script.play r.2).2)) := by
  intro r
  unfold contacts holding
  cases hh : f.held.contains t.device with
  | true => exact .inl ⟨rfl, rfl⟩
  | false =>
    refine .inr ⟨rfl, ?_⟩
    rw [if_neg Bool.false_ne_true]
    cases ha : r.1 with
    | error e => exact .inl ⟨e, rfl, Script.play_of_error ha⟩
    | ok down? => exact .inr ⟨down?, rfl, Script.play_of_ok ha⟩

end Feeder

end Device

namespace Dispatch

open Device

namespace Manual

/-- Arming a timer warns of nothing. -/
theorem warnings_arm (m : Manual) (k : ButtonKey) (length : Nat) (now : Moment) :
    (m.tracker.arm k length now).warnings = [] := by
  unfold Tracker.arm
  cases m.tracker.isArmed k <;> rfl

/-- A touch: what is read, if it is to read something, and the feeder and its timers after it. -/
def touch (m : Manual) : Touch → Logged (Option Bool × Manual)
  | .press k => do return (none, ← m.feed (·.press k))
  | .release k => do return (none, ← m.feed (·.release k))
  | .toggle k => do return (none, ← m.feed (·.toggle k))
  | .buttonState k => do
    let (down, feeder) ← m.feeder.buttonState k
    return (some down, { m with feeder })
  | .setAxis device axis position => do return (none, ← m.feed (·.setAxis device axis position))
  | .setHat device hat position => do return (none, ← m.feed (·.setHat device hat position))
  | .pulse k length => do return (none, ← m.pulse k length)

/-- A touch plays its script. -/
theorem touch_plays (m : Manual) (t : Touch) :
    Feeder.Plays (m.touch t) (·.2.feeder) (m.feeder.contacts t) := by
  cases t with
  | press k => exact .returned (.returned (m.feeder.setButton_plays k true))
  | release k => exact .returned (.returned (m.feeder.setButton_plays k false))
  | toggle k => exact .returned (.returned (m.feeder.toggle_plays k))
  | buttonState k => exact .returned (m.feeder.buttonState_plays k)
  | setAxis d axis position => exact .returned (.returned (m.feeder.setAxis_plays d axis position))
  | setHat d hat position => exact .returned (.returned (m.feeder.setHat_plays d hat position))
  | pulse k length =>
    refine .returned (.after (m.warnings_arm k length ⟨m.now, 0⟩) ?_)
    exact .returned (m.feeder.setButton_plays k true)

/-- What is read of a button is what the last contact read. -/
theorem touch_answer (m : Manual) (k : ButtonKey) :
    (m.touch (.buttonState k)).value.1 =
      some (Feeder.lastRead (m.feeder.contacts (.buttonState k)).1) :=
  congrArg some (m.feeder.buttonState_answer k)

/-- Only a pulse arms a timer, and it does so whatever becomes of its press. -/
theorem touch_tracker (m : Manual) (t : Touch) :
    (m.touch t).value.2.tracker =
      match t with
      | .pulse k length => (m.tracker.arm k length ⟨m.now, 0⟩).value
      | _ => m.tracker := by
  cases t <;> rfl

end Manual

end Dispatch

end ControlDeck
