import ControlDeck.Proofs.Contacts
import ControlDeck.Proofs.Sites

/-!
# A failing backend absorbs a touch

What a touch does to the joystick and to the devices that are held, whatever the two are like and
whichever of its calls fail.

- **Single calls**: a call that fails leaves the joystick as it was (`Feeder.ask_error`), and one
  that succeeds makes its entry (`Feeder.follows_ask`).
- **Devices that are held**: the contacts tell how these change (`Feeder.contains_play`).
- **Calls for one device** (`Script.On`): scripts that leave every other device alone
  (`On.play_site`).
- **The two steps of a touch** (`Feeder.contacts_follow`): it takes its device, if it is not taken
  already, and then makes its write, if no call fails.
- `touch_all_or_nothing`: all of this for any touch.
-/

namespace ControlDeck

namespace Device

/-! ## Single calls -/

namespace Feeder

variable {f : Feeder} {c : Operation}

/-- A call that succeeds does what it would do without any fault. -/
theorem ask_ok {down? : Option Bool} (h : (f.ask c).1 = .ok down?) :
    (f.joystick.operate c).1 = .ok down? ∧ (f.ask c).2.joystick = (f.joystick.operate c).2 := by
  unfold ask Backend.make at h ⊢
  cases hf : f.backend.fault? with
  | some message =>
    rw [hf] at h
    cases h
  | none =>
    rw [hf] at h
    exact ⟨h, rfl⟩

/-- A call that fails met a fault or fails without one, and leaves the joystick as it was. -/
theorem ask_error {e : DeviceError} (h : (f.ask c).1 = .error e) :
    ((∃ message, e = .backend message) ∨ (f.joystick.operate c).1 = .error e) ∧
      (f.ask c).2.joystick = f.joystick := by
  unfold ask Backend.make at h ⊢
  cases hf : f.backend.fault? with
  | some message =>
    rw [hf] at h
    cases h
    exact ⟨.inl ⟨message, rfl⟩, f.backend.passed_joystick⟩
  | none =>
    rw [hf] at h
    exact ⟨.inr h, Joystick.operate_of_error h⟩

/-- What is read of a button is its state. -/
theorem read_of_ask {k : ButtonKey} {down? : Option Bool}
    (h : (f.ask (.buttonState k)).1 = .ok down?) : down? = some (f.joystick.isPressed k) := by
  have ho := (ask_ok h).1
  simp only [Joystick.operate, Joystick.buttonState] at ho
  cases hq : f.joystick.requireAcquired k.device <;> cases hn : Joystick.requireButton k <;>
    simp_all [bind, Except.bind, pure, Except.pure, Except.map]

/-- A call makes its entry if it succeeds, and nothing else is left of it. -/
theorem follows_ask (f : Feeder) (c : Operation) :
    Joystick.Follows f.joystick (f.ask c).2.joystick
      (if (f.ask c).1.isOk then f.joystick.entry? c else none) := by
  cases h : (f.ask c).1 with
  | ok down? =>
    rw [(ask_ok h).2]
    exact f.joystick.follows_operate c
  | error e =>
    rw [(ask_error h).2]
    exact Joystick.Stays.refl _

/-- Acquiring a device never answers that it is not acquired. -/
theorem ask_acquire_ne_lost (f : Feeder) (d o : UInt32) :
    (f.ask (.acquire d)).1 ≠ .error (.notAcquired o) := by
  intro h
  obtain ⟨⟨message, hm⟩ | ho, -⟩ := ask_error h
  · cases hm
  · unfold Joystick.operate Joystick.acquire at ho
    cases hv : f.joystick.available.contains d <;> cases ha : f.joystick.isAcquired d <;>
      simp [hv, ha, Joystick.changed] at ho

end Feeder

/-! ## What is left of a call -/

namespace Joystick.Follows

variable {j next : Joystick} {e? : Option Entry}

theorem journal (h : Follows j next e?) :
    next.journal.toList = j.journal.toList ++ e?.toList := by
  cases e? with
  | none => rw [Stays.journal h, Option.toList_none, List.append_nil]
  | some e => rw [Enters.journal h, Array.toList_push, Option.toList_some]

theorem acquired (h : Follows j next e?) (d : UInt32) :
    next.isAcquired d = (e?.bind (·.taken? d)).getD (j.isAcquired d) := by
  cases e? with
  | none => exact congrFun (Stays.acquired h) d
  | some e => exact Enters.acquired h d

theorem pressed (h : Follows j next e?) (k : ButtonKey) :
    next.isPressed k = (e?.bind (·.down? k)).getD (j.isPressed k) := by
  cases e? with
  | none =>
    unfold isPressed
    rw [Stays.panel h]
    rfl
  | some e => exact Enters.pressed h k

theorem axis (h : Follows j next e?) (d : UInt32) (a : Axis) :
    next.axis? d a = (e?.bind (·.value? d a)).or (j.axis? d a) := by
  cases e? with
  | none =>
    unfold axis?
    rw [Stays.panel h]
    rfl
  | some e => exact Enters.axis h d a

theorem hat (h : Follows j next e?) (d : UInt32) (o : UInt8) :
    next.hat? d o = (e?.bind (·.position? d o)).or (j.hat? d o) := by
  cases e? with
  | none =>
    unfold hat?
    rw [Stays.panel h]
    rfl
  | some e => exact Enters.hat h d o

end Joystick.Follows

/-! ## Devices that are held -/

namespace Contact

/-- Whether a call acquired a device. -/
def gains (d : UInt32) (x : Contact) : Bool :=
  match x.call, x.answer with
  | .acquire device, .ok _ => device = d
  | _, _ => false

/-- Whether a call found out that a device had been lost. -/
def loses (d : UInt32) (x : Contact) : Bool := x.lost && x.call.device = d

/-- Only a call for a device acquires it. -/
theorem device_of_gains {d : UInt32} {x : Contact} (h : x.gains d = true) : x.call.device = d := by
  obtain ⟨call, answer⟩ := x
  cases call with
  | acquire device =>
    cases answer with
    | ok down? => exact of_decide_eq_true h
    | error e => cases h
  | _ => cases h

end Contact

theorem contains_insert_device (held : DeviceSet) (d o : UInt32) :
    (held.insert d).contains o = (held.contains o || decide (d = o)) := by
  by_cases h : d = o <;> simp [h]

theorem contains_erase_device (held : DeviceSet) (d o : UInt32) :
    (held.erase d).contains o = (held.contains o && !decide (d = o)) := by
  by_cases h : d = o <;> simp [h]

namespace Feeder

/-- A call changes which devices are held as its answer says. -/
theorem contains_ask (f : Feeder) (c : Operation) (o : UInt32) :
    let x : Contact := ⟨c, (f.ask c).1⟩
    (f.ask c).2.held.contains o = ((f.held.contains o || x.gains o) && !x.loses o) := by
  have hl := f.ask_acquire_ne_lost
  simp only [ask] at hl ⊢
  cases ha : (f.backend.make c).1 with
  | ok down? =>
    cases c with
    | acquire d =>
      refine (contains_insert_device ..).trans ?_
      simp [Contact.gains, Contact.loses, Contact.lost]
    | _ => simp [learn, Contact.gains, Contact.loses, Contact.lost]
  | error e =>
    cases c with
    | acquire d =>
      cases e with
      | notAcquired o => exact absurd ha (hl d o)
      | _ => simp [learn, Contact.gains, Contact.loses, Contact.lost]
    | _ =>
      cases e with
      | notAcquired =>
        refine (contains_erase_device ..).trans ?_
        simp [Contact.gains, Contact.loses, Contact.lost]
      | _ => simp [learn, Contact.gains, Contact.loses, Contact.lost]

/-- The contacts tell which devices are held after them. -/
theorem contains_play (s : Script) (f : Feeder) (o : UInt32) :
    let (log, g) := s.play f
    g.held.contains o = ((f.held.contains o || log.any (·.gains o)) && !log.any (·.loses o)) := by
  induction s generalizing f with
  | done => simp [Script.play]
  | ask call next ih =>
    have hc := f.contains_ask call o
    cases ha : (f.ask call).1 with
    | ok down? =>
      have hn := ih down? (f.ask call).2
      rw [Script.play_of_ok ha]
      simp only [ha] at hc hn ⊢
      have hl : (Contact.mk call (.ok down?)).loses o = false := rfl
      rw [hn, hc, hl, List.any_cons, List.any_cons, hl]
      simp [Bool.or_assoc]
    | error e =>
      rw [Script.play_of_error ha]
      simp only [ha] at hc ⊢
      rw [hc]
      simp

end Feeder

/-! ## Calls for one device -/

namespace Joystick

/-- An operation leaves every device alone but its own. -/
theorem site_operate (j : Joystick) {c : Operation} {o : UInt32} (h : o ≠ c.device) :
    (j.operate c).2.site o = j.site o := by
  have hf : ∀ d p change, o ≠ d → (j.feed d p change).site o = j.site o := fun d p change hd =>
    ((alike_feed rfl p change).others o hd).1
  cases c with
  | acquire d =>
    simp only [operate, acquire]
    cases j.available.contains d with
    | false => rfl
    | true =>
      cases j.isAcquired d with
      | true => rfl
      | false => exact ((alike_take rfl _).others o h).1
  | relinquish d => exact ((alike_relinquish rfl).others o h).1
  | setButton k down =>
    simp only [operate]
    cases hs : j.setButton k down with
    | error e => rfl
    | ok next =>
      obtain ⟨-, -, rfl⟩ := setButton_eq_ok_iff.mp hs
      exact hf _ _ _ h
  | buttonState k => rfl
  | setAxis d axis value =>
    simp only [operate, setAxis, requireAcquired]
    cases j.isAcquired d with
    | false => rfl
    | true => exact hf _ _ _ h
  | setHat d hat position =>
    simp only [operate, setHat, requireAcquired]
    cases j.isAcquired d with
    | false => rfl
    | true => exact hf _ _ _ h
  | setAvailable d on =>
    refine site_eq_iff.mpr ⟨?_, rfl, rfl⟩
    have hd : ¬ d = o := Ne.symm h
    cases on with
    | true => exact (contains_insert_device ..).trans (by simp [hd])
    | false => exact (contains_erase_device ..).trans (by simp [hd])

end Joystick

/-- Whether all calls of a script are for one device. -/
def Script.On (d : UInt32) : Script → Prop
  | .done => True
  | .ask call next => call.device = d ∧ ∀ down?, (next down?).On d

namespace Script.On

variable {d : UInt32} {s : Script}

theorem device_eq (h : s.On d) (f : Feeder) {x : Contact} (hx : x ∈ (s.play f).1) :
    x.call.device = d := by
  induction s generalizing f with
  | done => cases hx
  | ask call next ih =>
    cases ha : (f.ask call).1 with
    | ok down? =>
      rw [play_of_ok ha] at hx
      rcases List.mem_cons.mp hx with rfl | hx
      · exact h.1
      · exact ih down? (h.2 down?) _ hx
    | error e =>
      rw [play_of_error ha] at hx
      rw [List.mem_singleton.mp hx]
      exact h.1

/-- A script for one device leaves all others alone. -/
theorem play_site (h : s.On d) (f : Feeder) {o : UInt32} (ho : o ≠ d) :
    (s.play f).2.joystick.site o = f.joystick.site o := by
  induction s generalizing f with
  | done => rfl
  | ask call next ih =>
    have hc : (f.ask call).2.joystick.site o = f.joystick.site o := by
      cases ha : (f.ask call).1 with
      | ok down? =>
        rw [(Feeder.ask_ok ha).2]
        exact f.joystick.site_operate (h.1 ▸ ho)
      | error e => rw [(Feeder.ask_error ha).2]
    cases ha : (f.ask call).1 with
    | ok down? =>
      rw [play_of_ok ha]
      exact (ih down? (h.2 down?) _).trans hc
    | error e =>
      rw [play_of_error ha]
      exact hc

end Script.On

theorem Touch.on_script (t : Touch) : t.script.On t.device := by
  cases t with
  | toggle k => exact ⟨rfl, fun _ => ⟨rfl, fun _ => trivial⟩⟩
  | _ => exact ⟨rfl, fun _ => trivial⟩

namespace Feeder

variable {f : Feeder} {t : Touch}

theorem on_holding {d : UInt32} {s : Script} (h : s.On d) (f : Feeder) : (f.holding d s).On d := by
  unfold holding
  split
  · exact h
  · exact ⟨rfl, fun _ => h⟩

/-- Which devices are held after a touch: others as before, and its own one if it was held or
acquired, and not lost. -/
theorem contains_contacts (f : Feeder) (t : Touch) (o : UInt32) :
    (f.contacts t).2.held.contains o =
      if o = t.device then
        (f.held.contains o || (f.contacts t).1.any (·.gains o)) && !(f.contacts t).1.any (·.lost)
      else f.held.contains o := by
  have hp : (f.contacts t).2.held.contains o =
      ((f.held.contains o || (f.contacts t).1.any (·.gains o)) &&
        !(f.contacts t).1.any (·.loses o)) := f.contains_play ..
  have hd : ∀ x ∈ (f.contacts t).1, x.call.device = t.device := fun x =>
    (on_holding t.on_script f).device_eq f
  rw [hp]
  split
  · rename_i ho
    have hl : (f.contacts t).1.any (·.loses o) = (f.contacts t).1.any (·.lost) := by
      rw [Bool.eq_iff_iff, List.any_eq_true, List.any_eq_true]
      refine exists_congr fun x => and_congr_right fun hx => ?_
      simp [Contact.loses, hd x hx, ho]
    rw [hl]
  · rename_i ho
    have hg : (f.contacts t).1.any (·.gains o) = false :=
      List.any_eq_false.mpr fun x hx hg => ho ((Contact.device_of_gains hg).symm.trans (hd x hx))
    have hl : (f.contacts t).1.any (·.loses o) = false :=
      List.any_eq_false.mpr fun x hx hl => by
        simp only [Contact.loses, hd x hx, Bool.and_eq_true, decide_eq_true_eq] at hl
        exact ho hl.2.symm
    rw [hg, hl, Bool.or_false, Bool.not_false, Bool.and_true]

/-! ## The two steps of a touch -/

/-- A single call makes its entry, unless it fails. -/
theorem follows_one (f : Feeder) {c : Operation} {e? : Option Entry}
    (he : ∀ down?, (f.joystick.operate c).1 = .ok down? → f.joystick.entry? c = e?) :
    let (log, g) := (Script.one c).play f
    Joystick.Follows f.joystick g.joystick (if log.any (·.failed) then none else e?) := by
  have hf := f.follows_ask c
  rw [Script.play_one]
  cases ha : (f.ask c).1 with
  | ok down? =>
    rw [ha] at hf
    rw [← he down? (ask_ok ha).1]
    exact hf
  | error e =>
    rw [ha] at hf
    exact hf

/-- A device that is held is written to as asked, unless a call fails. -/
theorem follows_script (f : Feeder) (t : Touch) :
    Joystick.Follows f.joystick (t.script.play f).2.joystick
      (if (t.script.play f).1.any (·.failed) then none
      else (t.target? f.joystick.isPressed).map (Entry.mk t.device)) := by
  cases t with
  | toggle k =>
    have hr := f.follows_ask (.buttonState k)
    cases ha : (f.ask (.buttonState k)).1 with
    | ok down? =>
      obtain ⟨-, hj⟩ := ask_ok ha
      obtain rfl := read_of_ask ha
      have hw := (f.ask (.buttonState k)).2.follows_one fun down? h =>
        (if_pos (by rw [h]; rfl) : Joystick.entry? _ (.setButton k !f.joystick.isPressed k) = _)
      unfold Touch.script
      rw [Script.play_of_ok ha]
      rw [hj] at hw
      exact hw
    | error e =>
      unfold Touch.script
      rw [Script.play_of_error ha]
      rw [ha] at hr
      exact hr
  | _ => exact f.follows_one fun down? h => if_pos (by rw [h]; rfl)

/-- The calls of a touch whose device is held acquire none. -/
theorem not_gains_script (f : Feeder) (t : Touch) :
    (t.script.play f).1.any (·.gains t.device) = false := by
  cases t with
  | toggle k =>
    unfold Touch.script
    cases ha : (f.ask (.buttonState k)).1 with
    | ok down? =>
      rw [Script.play_of_ok ha, Script.play_one]
      rfl
    | error e =>
      rw [Script.play_of_error ha]
      rfl
  | _ =>
    unfold Touch.script
    rw [Script.play_one]
    rfl

/-- Whether a touch takes its device anew. -/
def takes (f : Feeder) (t : Touch) : Bool :=
  (f.contacts t).1.any (·.gains t.device) && !f.joystick.isAcquired t.device

/-- A touch takes its device anew, if an acquiring call of it succeeds and the device is not taken;
then it makes its write, unless a call fails. -/
theorem contacts_follow (f : Feeder) (t : Touch) :
    ∃ j, Joystick.Follows f.joystick j (if f.takes t then some ⟨t.device, .acquire⟩ else none) ∧
      Joystick.Follows j (f.contacts t).2.joystick
        (if (f.contacts t).1.any (·.failed) then none
        else (t.target? j.isPressed).map (Entry.mk t.device)) := by
  unfold takes
  obtain ⟨-, hc⟩ | ⟨-, ⟨e, ha, hc⟩ | ⟨down?, ha, hc⟩⟩ := f.contacts_cases t
  · rw [hc, not_gains_script]
    exact ⟨f.joystick, Joystick.Stays.refl _, f.follows_script t⟩
  · rw [hc]
    refine ⟨f.joystick, Joystick.Stays.refl _, ?_⟩
    rw [(ask_error ha).2]
    exact Joystick.Stays.refl _
  · rw [hc]
    refine ⟨(f.ask (.acquire t.device)).2.joystick, ?_, follows_script _ t⟩
    have hf := f.follows_ask (.acquire t.device)
    have he : f.joystick.entry? (.acquire t.device) =
        if f.joystick.isAcquired t.device then none else some ⟨t.device, .acquire⟩ :=
      if_pos (by rw [(ask_ok ha).1]; rfl)
    have hg : (Contact.mk (.acquire t.device) (.ok down?)).gains t.device = true :=
      decide_eq_true rfl
    rw [ha, he] at hf
    rw [List.any_cons, hg]
    cases hj : f.joystick.isAcquired t.device <;> rw [hj] at hf <;> exact hf

/-- The buttons as a touch finds them: those of its device are up if it takes the device anew. -/
def pressedFor (f : Feeder) (t : Touch) (k : ButtonKey) : Bool :=
  !(f.takes t && k.device = t.device) && f.joystick.isPressed k

/-- The entry of what a touch writes: it writes what it is to write, unless a call fails. -/
def written? (f : Feeder) (t : Touch) : Option Entry :=
  if (f.contacts t).1.any (·.failed) then none
  else (t.target? (f.pressedFor t)).map (Entry.mk t.device)

/-- What a touch writes neither takes a device nor hands one back. -/
theorem written?_bind_taken? (f : Feeder) (t : Touch) (d : UInt32) :
    (f.written? t).bind (·.taken? d) = none := by
  unfold written?
  split
  · rfl
  · cases t <;> simp [Touch.target?, Entry.taken?]

/-- What a touch does to the joystick: it takes its device, if it takes it anew, and makes its
write; all else that the joystick shows is as before. -/
theorem contacts_spec (f : Feeder) (t : Touch) :
    let i := (f.contacts t).2.joystick
    i.journal.toList = f.joystick.journal.toList ++
        (if f.takes t then [⟨t.device, .acquire⟩] else []) ++ (f.written? t).toList ∧
      (∀ d, i.isAcquired d = (f.joystick.isAcquired d || (f.takes t && d = t.device))) ∧
      (∀ k, i.isPressed k = ((f.written? t).bind (·.down? k)).getD (f.pressedFor t k)) ∧
      (∀ d a, i.axis? d a = ((f.written? t).bind (·.value? d a)).or (f.joystick.axis? d a)) ∧
      ∀ d h, i.hat? d h = ((f.written? t).bind (·.position? d h)).or (f.joystick.hat? d h) := by
  obtain ⟨j, hj, hi⟩ := f.contacts_follow t
  have hp : j.isPressed = f.pressedFor t := by
    funext k
    rw [hj.pressed, pressedFor]
    by_cases hk : k.device = t.device
    · cases f.takes t <;> simp [Entry.down?, hk]
    · cases f.takes t <;> simp [Entry.down?, hk, Ne.symm hk]
  rw [hp, ← written?] at hi
  refine ⟨?_, fun d => ?_, fun k => ?_, fun d a => ?_, fun d h => ?_⟩
  · rw [hi.journal, hj.journal]
    cases f.takes t <;> rfl
  · rw [hi.acquired, written?_bind_taken?, Option.getD_none, hj.acquired]
    by_cases hd : d = t.device
    · cases f.takes t <;> simp [Entry.taken?, hd]
    · cases f.takes t <;> simp [Entry.taken?, hd, Ne.symm hd]
  · rw [hi.pressed, hp]
  · rw [hi.axis, hj.axis]
    cases f.takes t <;> simp [Entry.value?]
  · rw [hi.hat, hj.hat]
    cases f.takes t <;> simp [Entry.position?]

theorem mem_heldDevices {f : Feeder} {d : UInt32} :
    d ∈ f.heldDevices ↔ f.held.contains d = true :=
  Std.TreeSet.mem_toList.trans Std.TreeSet.mem_iff_contains

end Feeder

end Device

namespace Dispatch

open Device

/-- A touch, whatever the feeder, its timers and the joystick are like, and whichever of its calls
fail for whatever reason. Its calls are those of its script, up to the first one that fails, and it
warns of that one.

- The journal gains at most the taking of its device and then its write. The device is taken anew if
  it was not taken and an acquiring call succeeds; the write is there if there is one to make and no
  call fails.
- If a call fails, all buttons, axes and hats are as before, but that the buttons of a device that
  was taken anew are up. No other device is ever touched.
- Its device is held then if it was held or acquired, and no call found it lost. Whether another
  device is held stays the same.
- A pulse arms the timer of its button, also if its press fails, and nothing else touches a
  timer. -/
theorem touch_all_or_nothing (m : Manual) (t : Touch) :
    let d := t.device
    let log := (m.feeder.contacts t).1
    let j := m.feeder.joystick
    let n := (m.touch t).value.2
    let i := n.feeder.joystick
    let taken := m.feeder.takes t
    let failed := log.any (·.failed)
    (n.feeder = (m.feeder.contacts t).2 ∧
      (m.touch t).warnings = log.filterMap Contact.warning?) ∧
    (i.journal.toList = j.journal.toList ++ (if taken then [⟨d, .acquire⟩] else []) ++
        (if failed then [] else ((t.target? (m.feeder.pressedFor t)).map (Entry.mk d)).toList) ∧
      ∀ o, i.isAcquired o = (j.isAcquired o || (taken && o = d))) ∧
    ((failed = true → i.isPressed = m.feeder.pressedFor t ∧ i.axis? = j.axis? ∧ i.hat? = j.hat?) ∧
      ∀ o ≠ d, i.site o = j.site o) ∧
    ((d ∈ n.feeder.heldDevices ↔
        (d ∈ m.feeder.heldDevices ∨ ∃ x ∈ log, x.gains d = true) ∧ ∀ x ∈ log, x.lost = false) ∧
      ∀ o ≠ d, o ∈ n.feeder.heldDevices ↔ o ∈ m.feeder.heldDevices) ∧
    ∀ c, n.tracker.pulses c =
      match t with
      | .pulse k length =>
        if c = k then
          ⟨(m.tracker.pulses k).generation + 1, some ⟨length, ⟨m.now, 0⟩, m.tracker.armings⟩⟩
        else m.tracker.pulses c
      | _ => m.tracker.pulses c := by
  intro d log j n i taken failed
  have hf : n.feeder = (m.feeder.contacts t).2 := (m.touch_plays t).value
  obtain ⟨hj, ha, hp, hx, hh⟩ := m.feeder.contacts_spec t
  have hc := m.feeder.contains_contacts t
  rw [← hf] at hj ha hp hx hh hc
  refine ⟨⟨hf, (m.touch_plays t).warnings⟩, ⟨?_, ha⟩, ⟨fun he => ?_, fun o ho => ?_⟩,
    ⟨?_, fun o ho => ?_⟩, fun c => ?_⟩
  · rw [hj, Feeder.written?, apply_ite Option.toList]
    rfl
  · have hw : m.feeder.written? t = none := if_pos he
    rw [hw] at hp hx hh
    exact ⟨funext hp, funext₂ hx, funext₂ hh⟩
  · show n.feeder.joystick.site o = _
    rw [hf]
    exact (Feeder.on_holding t.on_script m.feeder).play_site _ ho
  · rw [Feeder.mem_heldDevices, Feeder.mem_heldDevices, hc, if_pos rfl]
    simp [log, d]
  · rw [Feeder.mem_heldDevices, Feeder.mem_heldDevices, hc, if_neg ho]
  · have ht := congrArg (·.pulses c) (m.touch_tracker t)
    refine ht.trans ?_
    cases t with
    | pulse k length => exact Tracker.pulses_arm ..
    | _ => rfl

end Dispatch

end ControlDeck
