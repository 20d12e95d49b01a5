import ControlDeck.Proofs.Holdings

/-!
# A lost device costs one touch

A feeder that shares its joystick may hold a device that somebody else handed back. It learns of
that when a touch fails for it, and the next touch acquires the device again.

- **Losses** (`Manual.isLost`): devices that are held without being acquired.
- **Accounts** (`Manual.losses`, `Manual.withdrawals`): the touches that were absorbed because their
  device had been lost, and how often somebody else handed the device back. Each happening pays for
  itself (`losses_meet`), the losses being what is still owed.
- **Recovery**: a device that was found lost is not held until it is touched again
  (`not_held_meetAll`), and a touch of a device that is not held acquires it first
  (`head_contacts`).
- **Effects** (`Touch.TookEffect`): what a touch does if none of its calls fails, which is so if its
  device is acquired, no call meets a fault, and the button exists (`not_failed_script`). A touch of
  a device that is not held takes full effect if the device is available (`touch_anew`).
- `loss_costs_one_touch`: what all this comes to.
-/

namespace ControlDeck

namespace Device

/-! ## Calls that succeed -/

theorem Contact.failed_of_lost {x : Contact} (h : x.lost = true) : x.failed = true := by
  unfold lost at h
  split at h
  · rename_i hx
    rw [failed, hx]
    rfl
  · cases h

namespace Joystick

variable {j : Joystick}

/-- Whether an operation needs nothing that the joystick does not offer. -/
def Offers (j : Joystick) : Operation → Prop
  | .acquire device => j.available.contains device = true
  | .setButton k _ | .buttonState k => j.isAcquired k.device = true ∧ hasButton k.button = true
  | .setAxis device .. | .setHat device .. => j.isAcquired device = true
  | .relinquish _ | .setAvailable .. => True

/-- An operation succeeds if the joystick offers what it needs. -/
theorem isOk_operate {c : Operation} (h : j.Offers c) : (j.operate c).1.isOk = true := by
  unfold operate
  cases c with
  | acquire d =>
    replace h : j.available.contains d = true := h
    unfold acquire
    cases ha : j.isAcquired d <;> simp [h, ha, changed, Except.isOk, Except.toBool]
  | setButton k down =>
    have hs : j.setButton k down = .ok _ := setButton_eq_ok_iff.mpr ⟨h.1, h.2, rfl⟩
    simp only [hs]
    rfl
  | buttonState k =>
    unfold buttonState requireAcquired requireButton
    simp only [h.1, h.2]
    rfl
  | setAxis d | setHat d =>
    replace h : j.isAcquired d = true := h
    simp only [setAxis, setHat, requireAcquired, h]
    rfl
  | relinquish | setAvailable => rfl

end Joystick

namespace Feeder

variable {f : Feeder} {t : Touch}

/-- A call that meets no fault succeeds if the joystick offers what it needs. -/
theorem not_failed_of_offers {c : Operation} (h : f.joystick.Offers c)
    (hf : (Contact.mk c (f.ask c).1).faulted = false) :
    (Contact.mk c (f.ask c).1).failed = false := by
  cases ha : (f.ask c).1 with
  | ok down? => rfl
  | error e =>
    obtain ⟨⟨message, rfl⟩ | he, -⟩ := ask_error ha
    · rw [ha] at hf
      cases hf
    · have ho := Joystick.isOk_operate h
      rw [he] at ho
      cases ho

/-- A touch whose device is acquired succeeds if no call meets a fault and its button exists. -/
theorem not_failed_script (ha : f.joystick.isAcquired t.device = true)
    (hb : ∀ k, t.key? = some k → hasButton k.button = true)
    (hf : (t.script.play f).1.any (·.faulted) = false) :
    (t.script.play f).1.any (·.failed) = false := by
  have ho : ∀ {g : Feeder} {c : Operation}, g.joystick.Offers c →
      ((Script.one c).play g).1.any (·.faulted) = false →
      ((Script.one c).play g).1.any (·.failed) = false := by
    intro g c hc hf
    rw [Script.play_one] at hf ⊢
    simp only [List.any_cons, List.any_nil, Bool.or_false] at hf ⊢
    exact not_failed_of_offers hc hf
  cases t with
  | press k | release k | buttonState k | pulse k _ => exact ho ⟨ha, hb k rfl⟩ hf
  | setAxis | setHat => exact ho ha hf
  | toggle k =>
    have hk : f.joystick.Offers (.buttonState k) := ⟨ha, hb k rfl⟩
    unfold Touch.script at hf ⊢
    cases hr : (f.ask (.buttonState k)).1 with
    | ok down? =>
      have hj : (f.ask (.buttonState k)).2.joystick = f.joystick := (ask_ok hr).2
      rw [Script.play_of_ok hr, List.any_cons] at hf ⊢
      exact ho (by rw [hj]; exact hk) hf
    | error e =>
      have hn := not_failed_of_offers hk
      rw [Script.play_of_error hr] at hf ⊢
      rw [hr] at hn
      simp only [List.any_cons, List.any_nil, Bool.or_false] at hf ⊢
      exact hn hf

/-- A touch of a device that is not held acquires it first. -/
theorem head_contacts (h : f.held.contains t.device = false) :
    (f.contacts t).1.head?.map (·.call) = some (.acquire t.device) := by
  obtain ⟨hh, -⟩ | ⟨-, ⟨e, -, hc⟩ | ⟨down?, -, hc⟩⟩ := f.contacts_cases t
  · exact absurd (hh.symm.trans h) nofun
  · rw [hc]
    rfl
  · rw [hc]
    rfl

/-- A touch of a device that is not held succeeds if the device is available, no call meets a fault
and its button exists. -/
theorem not_failed_contacts (h : f.held.contains t.device = false)
    (hv : f.joystick.available.contains t.device = true)
    (hb : ∀ k, t.key? = some k → hasButton k.button = true)
    (hf : (f.contacts t).1.any (·.faulted) = false) :
    (f.contacts t).1.any (·.failed) = false ∧ (f.contacts t).1.any (·.gains t.device) = true := by
  obtain ⟨hh, -⟩ | ⟨-, ⟨e, ha, hc⟩ | ⟨down?, ha, hc⟩⟩ := f.contacts_cases t
  · exact absurd (hh.symm.trans h) nofun
  · have hn := not_failed_of_offers (f := f) (c := .acquire t.device) hv
    rw [hc] at hf
    rw [ha] at hn
    simp only [List.any_cons, List.any_nil, Bool.or_false] at hf
    cases hn hf
  · obtain ⟨ho, hj⟩ := ask_ok ha
    rw [hc, List.any_cons] at hf ⊢
    refine ⟨not_failed_script ?_ hb hf, ?_⟩
    · rw [hj]
      exact Joystick.isAcquired_of_acquire ho
    · simp [Contact.gains]

/-! ## Effects -/

/-- A call that reads a button and does not fail reads its state. -/
theorem read?_of_not_failed {k : ButtonKey}
    (h : (Contact.mk (.buttonState k) (f.ask (.buttonState k)).1).failed = false) :
    (Contact.mk (.buttonState k) (f.ask (.buttonState k)).1).read? =
      some ((f.ask (.buttonState k)).2.joystick.isPressed k) := by
  cases ha : (f.ask (.buttonState k)).1 with
  | ok down? =>
    rw [read_of_ask ha, (ask_ok ha).2]
    rfl
  | error e =>
    rw [ha] at h
    cases h

/-- A touch that reads a button and does not fail reads its state. -/
theorem lastRead_contacts {k : ButtonKey}
    (hf : (f.contacts (.buttonState k)).1.any (·.failed) = false) :
    lastRead (f.contacts (.buttonState k)).1 =
      (f.contacts (.buttonState k)).2.joystick.isPressed k := by
  unfold lastRead
  obtain ⟨-, hc⟩ | ⟨-, ⟨e, ha, hc⟩ | ⟨down?, ha, hc⟩⟩ := f.contacts_cases (.buttonState k)
  · rw [hc, Touch.script, Script.play_one] at hf ⊢
    simp only [List.any_cons, List.any_nil, Bool.or_false] at hf
    simp [read?_of_not_failed hf]
  · rw [hc] at hf
    cases hf
  · rw [hc, Touch.script, Script.play_one] at hf ⊢
    simp only [List.any_cons, List.any_nil, Bool.or_false, Bool.or_eq_false_iff] at hf
    simp [read?_of_not_failed hf.2]

end Feeder

/-- A touch took effect: what it is to change is as it asks for, what it is to read was read. It
found the buttons in some state. -/
def Touch.TookEffect (pressed : ButtonKey → Bool) (answer? : Option Bool) (next : Joystick) :
    Touch → Prop
  | .press k | .pulse k _ => next.isPressed k = true
  | .release k => next.isPressed k = false
  | .toggle k => next.isPressed k = !pressed k
  | .buttonState k => answer? = some (pressed k)
  | .setAxis device axis position => next.axis? device axis = some (Axis.toDevice position)
  | .setHat device hat position => next.hat? device hat = some position

end Device

namespace Dispatch

open Device

/-- Whether it is somebody else's doing. -/
def Happening.isOutside : Happening → Bool
  | .outside _ | .shutdown .. => true
  | .touch _ | .relinquishAll | .inject .. => false

/-- Whether it is a touch of a device. -/
def Happening.touches (d : UInt32) : Happening → Bool
  | .touch t => t.device = d
  | _ => false

namespace Manual

variable {m : Manual} {t : Touch} {d : UInt32}

/-- A touch of which no call fails takes effect. -/
theorem tookEffect (hf : (m.feeder.contacts t).1.any (·.failed) = false) :
    t.TookEffect (m.feeder.pressedFor t) (m.touch t).value.1 (m.touch t).value.2.joystick := by
  have hw : m.feeder.written? t = (t.target? (m.feeder.pressedFor t)).map (Entry.mk t.device) :=
    if_neg (Bool.eq_false_iff.mp hf)
  obtain ⟨-, -, hp, hx, hh⟩ := m.feeder.contacts_spec t
  rw [← (m.touch_plays t).value, hw] at hp hx hh
  cases t with
  | press k | release k | toggle k | pulse k length =>
    refine (hp k).trans ?_
    simp [Touch.target?, Touch.device, Entry.down?]
  | buttonState k =>
    have hj : (m.touch (.buttonState k)).value.2.joystick.isPressed k =
        m.feeder.pressedFor _ k := hp k
    have hr := Feeder.lastRead_contacts hf
    rw [← (m.touch_plays _).value] at hr
    exact (m.touch_answer k).trans (congrArg some (hr.trans hj))
  | setAxis o axis position =>
    refine (hx o axis).trans ?_
    simp [Touch.target?, Touch.device, Entry.value?]
  | setHat o hat position =>
    refine (hh o hat).trans ?_
    simp [Touch.target?, Touch.device, Entry.position?]

/-- A touch of a device that is not held takes full effect if the device is available, no call meets
a fault and its button exists. -/
theorem touch_anew (hh : m.feeder.held.contains t.device = false)
    (hv : m.joystick.available.contains t.device = true)
    (hb : ∀ k, t.key? = some k → hasButton k.button = true)
    (hf : (m.feeder.contacts t).1.any (·.faulted) = false) :
    let o := (m.touch t).value
    let pressed := m.feeder.pressedFor t
    (∀ x ∈ (m.feeder.contacts t).1, x.failed = false) ∧
      t.device ∈ o.2.feeder.heldDevices ∧ o.2.joystick.isAcquired t.device = true ∧
      o.2.joystick.journal.toList = m.joystick.journal.toList ++
        (if m.joystick.isAcquired t.device then [] else [⟨t.device, .acquire⟩]) ++
        ((t.target? pressed).map (Entry.mk t.device)).toList ∧
      t.TookEffect pressed o.1 o.2.joystick := by
  intro o pressed
  obtain ⟨hn, hg⟩ := Feeder.not_failed_contacts hh hv hb hf
  have hn' : ∀ x ∈ (m.feeder.contacts t).1, x.failed = false := fun x hm =>
    Bool.eq_false_iff.mpr (List.any_eq_false.mp hn x hm)
  have hl : (m.feeder.contacts t).1.any (·.lost) = false := List.any_eq_false.mpr fun x hm hl =>
    Bool.false_ne_true ((hn' x hm).symm.trans (Contact.failed_of_lost hl))
  have ht : m.feeder.takes t = !m.joystick.isAcquired t.device := by
    rw [Feeder.takes, hg, Bool.true_and]
  have hw : m.feeder.written? t = (t.target? pressed).map (Entry.mk t.device) :=
    if_neg (Bool.eq_false_iff.mp hn)
  obtain ⟨hj, ha, -⟩ := m.feeder.contacts_spec t
  have hc := m.feeder.contains_contacts t t.device
  rw [← (m.touch_plays t).value] at hj ha hc
  refine ⟨hn', ?_, ?_, ?_, tookEffect hn⟩
  · rw [Feeder.mem_heldDevices, hc, if_pos rfl, hg, hl]
    simp
  · rw [show o.2.joystick.isAcquired _ = _ from ha _, ht]
    cases m.joystick.isAcquired t.device <;> simp
  · refine hj.trans ?_
    rw [hw, ht]
    cases m.joystick.isAcquired t.device <;> rfl

/-! ## Accounts -/

/-- A device that is held without being acquired. -/
def isLost (m : Manual) (d : UInt32) : Bool :=
  m.feeder.held.contains d && !m.joystick.isAcquired d

/-- Whether a happening is a touch of a device that is absorbed because the device was lost. -/
def absorbs (m : Manual) (d : UInt32) : Happening → Bool
  | .touch t => t.device = d && (m.feeder.contacts t).1.any (·.lost)
  | _ => false

/-- How often somebody else hands a device back by a happening, so that it is entered. -/
def takenAway (m : Manual) (d : UInt32) (e : Happening) : Nat :=
  if e.isOutside then
    ((m.meet e).joystick.journal.toList.drop m.joystick.journal.toList.length).count
      ⟨d, .relinquish⟩
  else 0

/-- The number of touches of a device that are absorbed because it was lost. -/
def losses (m : Manual) (d : UInt32) : List Happening → Nat
  | [] => 0
  | e :: events => (m.absorbs d e).toNat + (m.meet e).losses d events

/-- How often somebody else hands a device back. -/
def withdrawals (m : Manual) (d : UInt32) : List Happening → Nat
  | [] => 0
  | e :: events => m.takenAway d e + (m.meet e).withdrawals d events

/-- A touch pays for itself: the device that it finds lost is not held any more. -/
theorem losses_touch (m : Manual) (d : UInt32) (t : Touch) :
    (m.absorbs d (.touch t)).toNat + ((m.meet (.touch t)).isLost d).toNat ≤ (m.isLost d).toNat := by
  have hc := m.feeder.contains_contacts t d
  have ha := (m.feeder.contacts_spec t).2.1 d
  rw [← (m.touch_plays _).value] at hc ha
  have hl : (m.meet (.touch t)).isLost d = _ := congrArg₂ (fun a b => a && !b) hc ha
  rw [hl]
  by_cases hd : d = t.device
  · subst hd
    have hb : m.absorbs t.device (.touch t) = (m.feeder.contacts t).1.any (·.lost) := by
      simp only [absorbs, decide_true, Bool.true_and]
    rw [hb, if_pos rfl, isLost, Feeder.takes]
    cases hf : (m.feeder.contacts t).1.any (·.lost) with
    | true =>
      obtain ⟨hh, hn⟩ := Feeder.held_of_lost hf
      rw [hh, hn]
      simp
    | false =>
      generalize m.feeder.held.contains t.device = h
      generalize m.feeder.joystick.isAcquired t.device = a
      generalize (m.feeder.contacts t).1.any (·.gains t.device) = g
      cases h <;> cases a <;> cases g <;> simp
  · have hn : m.absorbs d (.touch t) = false := by
      simp [absorbs, Ne.symm hd]
    rw [hn, if_neg hd]
    simp [isLost, hd]

/-- What somebody else does pays for itself: a device is lost only by handing it back. -/
theorem losses_outside {e : Happening} (he : e.isOutside = true)
    (hh : (m.meet e).feeder.held = m.feeder.held) :
    ((m.meet e).isLost d).toNat ≤ m.takenAway d e + (m.isLost d).toNat := by
  obtain ⟨gained, hg⟩ := (m.operated_meet e).grown
  have ht : m.takenAway d e = gained.count ⟨d, .relinquish⟩ := by
    rw [takenAway, if_pos he, hg.journal, List.drop_left]
  rw [ht, isLost, isLost, hh]
  cases hn : (m.meet e).joystick.isAcquired d with
  | true => simp
  | false =>
    cases ha : m.joystick.isAcquired d with
    | false => exact Nat.le_add_left ..
    | true =>
      have hp := List.count_pos_iff.mpr (hg.relinquish_mem ha hn)
      have hb := Bool.toNat_le (m.feeder.held.contains d && !false)
      omega

/-- Every happening pays for itself. -/
theorem losses_meet (m : Manual) (d : UInt32) (e : Happening) :
    (m.absorbs d e).toNat + ((m.meet e).isLost d).toNat ≤ m.takenAway d e + (m.isLost d).toNat := by
  cases e with
  | touch t => exact Nat.le_trans (m.losses_touch d t) (Nat.le_add_left ..)
  | relinquishAll =>
    have hl : (m.meet .relinquishAll).isLost d = false :=
      congrArg (· && _) (m.feeder.not_held_relinquishAll d)
    rw [hl]
    exact Nat.zero_le _
  | outside c => exact Nat.le_trans (Nat.le_of_eq (Nat.zero_add _)) (losses_outside rfl rfl)
  | shutdown => exact Nat.le_trans (Nat.le_of_eq (Nat.zero_add _)) (losses_outside rfl rfl)
  | inject faults spared => exact Nat.add_le_add_right (Nat.zero_le _) _

/-- The losses are at most what others handed back, and what was lost before. -/
theorem losses_le (m : Manual) (d : UInt32) (events : List Happening) :
    m.losses d events + ((m.meetAll events).isLost d).toNat ≤
      m.withdrawals d events + (m.isLost d).toNat := by
  induction events generalizing m with
  | nil => exact Nat.le_refl _
  | cons e events ih =>
    have hm := m.losses_meet d e
    have hi := ih (m.meet e)
    simp only [losses, withdrawals]
    show _ + _ + (((m.meet e).meetAll events).isLost d).toNat ≤ _
    omega

/-! ## Recovery -/

/-- A device that is not held is not held until it is touched. -/
theorem not_held_meet (h : m.feeder.held.contains d = false) {e : Happening}
    (he : e.touches d = false) : (m.meet e).feeder.held.contains d = false := by
  cases e with
  | touch t =>
    have ht : d ≠ t.device := fun hd => of_decide_eq_false he hd.symm
    have hf : (m.meet (.touch t)).feeder = _ := (m.touch_plays t).value
    rw [hf, Feeder.contains_contacts, if_neg ht]
    exact h
  | relinquishAll => exact m.feeder.not_held_relinquishAll d
  | outside | shutdown | inject => exact h

theorem not_held_meetAll (h : m.feeder.held.contains d = false) {between : List Happening}
    (hb : ∀ e ∈ between, e.touches d = false) :
    (m.meetAll between).feeder.held.contains d = false := by
  induction between generalizing m with
  | nil => exact h
  | cons e between ih =>
    rw [List.forall_mem_cons] at hb
    exact ih (not_held_meet h hb.1) hb.2

/-- A device that a touch found lost is not held after it. -/
theorem not_held_of_absorbs (h : m.absorbs d (.touch t) = true) :
    (m.meet (.touch t)).feeder.held.contains d = false := by
  simp only [absorbs, Bool.and_eq_true, decide_eq_true_eq] at h
  obtain ⟨rfl, hl⟩ := h
  have hf : (m.meet (.touch t)).feeder = _ := (m.touch_plays t).value
  rw [hf, Feeder.contains_contacts, if_pos rfl, hl]
  exact Bool.and_false _

end Manual

/-- Losing a device costs at most one touch. On a new joystick that others use too, whatever is
asked of a feeder, whatever others do with the joystick in between, and whichever calls meet a
fault: no more touches of a device are absorbed because it was lost than others handed it back. And
after such a touch, the next touch of the device acquires it first, whatever happens in between.
Unless that touch meets a fault, it takes full effect if the device is available then and has its
button: no call fails, the device is held and acquired, what the touch writes is entered, and it has
its effect. -/
theorem loss_costs_one_touch (devices : List UInt32) (events : List Happening) (d : UInt32) :
    let start := Manual.start devices
    let m := start.meetAll events
    start.losses d events ≤ start.withdrawals d events ∧
    ∀ t, m.absorbs d (.touch t) = true →
      ∀ between, (∀ e ∈ between, e.touches d = false) → ∀ u : Touch, u.device = d →
        let n := (m.meet (.touch t)).meetAll between
        let log := (n.feeder.contacts u).1
        let pressed := n.feeder.pressedFor u
        let o := (n.touch u).value
        log.head?.map (·.call) = some (.acquire d) ∧
        (n.joystick.available.contains d = true → (∀ x ∈ log, x.faulted = false) →
          (∀ k, u.key? = some k → 1 ≤ k.button ∧ k.button ≤ 128) →
          (∀ x ∈ log, x.failed = false) ∧
          d ∈ o.2.feeder.heldDevices ∧ o.2.joystick.isAcquired d = true ∧
          o.2.joystick.journal.toList = n.joystick.journal.toList ++
            (if n.joystick.isAcquired d then [] else [⟨d, .acquire⟩]) ++
            ((u.target? pressed).map (Entry.mk d)).toList ∧
          u.TookEffect pressed o.1 o.2.joystick) := by
  intro start m
  refine ⟨?_, fun t ht between hb u hu => ?_⟩
  · have hl := start.losses_le d events
    have hs : start.isLost d = false := rfl
    rw [hs] at hl
    exact Nat.le_trans (Nat.le_add_right ..) hl
  · intro n log pressed o
    subst hu
    have hn : n.feeder.held.contains u.device = false :=
      Manual.not_held_meetAll (Manual.not_held_of_absorbs ht) hb
    refine ⟨Feeder.head_contacts hn, fun hv hx hk => ?_⟩
    have hx : log.any (·.faulted) = false :=
      List.any_eq_false.mpr fun x hm => Bool.eq_false_iff.mp (hx x hm)
    have hk : ∀ k, u.key? = some k → hasButton k.button = true := fun k hu => by
      simp [hasButton, maxButton, hk k hu]
    exact Manual.touch_anew hn hv hk hx

/-- Another worker that cleans up takes a device away. A toggle of it is absorbed; the next one
takes the device anew, and presses the button. -/
theorem loss_costs_one_touch_shutdown :
    let t : Touch := .toggle ⟨1, 1⟩
    let events : List Happening := [.touch (.press ⟨1, 1⟩),
      .shutdown { held := Std.TreeSet.ofList [(1 : UInt32)] } [] 0 {}]
    let between : List Happening := [.inject ["busy"] 5, .touch (.press ⟨2, 1⟩)]
    let start := Manual.start [1, 2]
    let n := ((start.meetAll events).meet (.touch t)).meetAll between
    start.losses 1 (events ++ [.touch t]) = 1 ∧
      start.losses 1 (events ++ [.touch t]) ≤ start.withdrawals 1 (events ++ [.touch t]) ∧
      n.joystick.isPressed ⟨1, 1⟩ = true ∧ n.feeder.pressedFor t ⟨1, 1⟩ = false ∧
      (n.touch t).value.2.joystick.isPressed ⟨1, 1⟩ = !n.feeder.pressedFor t ⟨1, 1⟩ := by
  intro t events between start n
  obtain ⟨hl, -⟩ := loss_costs_one_touch [1, 2] (events ++ [.touch t]) 1
  obtain ⟨-, hr⟩ := loss_costs_one_touch [1, 2] events 1
  have hb : ∀ e ∈ between, e.touches 1 = false := by decide +kernel
  obtain ⟨-, ho⟩ := hr t (by decide +kernel) between hb t rfl
  have hv : n.joystick.available.contains 1 = true := by decide +kernel
  have hx : ∀ x ∈ (n.feeder.contacts t).1, x.faulted = false := by decide +kernel
  have hk : ∀ k, t.key? = some k → 1 ≤ k.button ∧ k.button ≤ 128 := by
    rintro k ⟨⟩
    decide
  generalize hn : Manual.meetAll _ between = n' at ho
  obtain rfl : n' = n := hn.symm
  obtain ⟨-, -, -, -, he⟩ := ho hv hx hk
  exact ⟨by decide +kernel, hl, by decide +kernel, by decide +kernel, he⟩

end Dispatch

end ControlDeck
