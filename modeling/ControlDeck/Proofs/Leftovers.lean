import ControlDeck.Proofs.Replaying
import ControlDeck.Proofs.Sites

/-!
# What a device keeps when it is taken anew

A device that is taken starts with its buttons up. Its axes and hats are as they were last fed,
also by those who had the device before.

- **New looks** (`Joystick.LooksNew`): a device shows nothing, like one that was never used.
- **Lasting entries** (`Entry.Lasts`): the writes of axes and hats, whose effect no later taking of
  the device ends. Where there is none, nothing is told of axes and hats (`nothing_told_iff`).
- **Taking** (`Joystick.operate_acquire`, `Joystick.site_acquire`): what it does to the device and
  to every other one.
- `taken_anew`: what a device shows that is taken, which looks new exactly if nothing lasts.
-/

namespace ControlDeck.Device

/-! ## New looks -/

/-- A device shows nothing: no button is down, and no axis and no hat has been fed. -/
def Joystick.LooksNew (j : Joystick) (d : UInt32) : Prop :=
  (∀ button, j.isPressed ⟨d, button⟩ = false) ∧ (∀ axis, j.axis? d axis = none) ∧
    ∀ hat, j.hat? d hat = none

/-- Every device of a new joystick looks new. -/
theorem looksNew_ofAvailable (devices : List UInt32) (d : UInt32) :
    (Joystick.ofAvailable devices).LooksNew d := by
  have hp : (Joystick.ofAvailable devices).panel d = {} := by
    simp [Joystick.ofAvailable, Joystick.panel]
  refine ⟨fun button => ?_, fun axis => ?_, fun hat => ?_⟩
  · rw [Joystick.isPressed, hp]
    exact Bank.isDown_empty button
  · rw [Joystick.axis?, hp]
    exact Std.TreeMap.getElem?_emptyc
  · rw [Joystick.hat?, hp]
    exact Std.TreeMap.getElem?_emptyc

/-! ## Lasting entries -/

/-- Whether an entry feeds an axis or a hat of a device. -/
def Entry.Lasts (d : UInt32) (e : Entry) : Prop :=
  (∃ axis value, e = ⟨d, .axis axis value⟩) ∨ ∃ hat position, e = ⟨d, .hat hat position⟩

section

variable {d : UInt32} {e : Entry} {es : List Entry}

theorem lastTold_eq_none_iff {α : Type} {tells : Entry → Option α} :
    lastTold tells es = none ↔ ∀ e ∈ es, tells e = none := by
  rw [lastTold, List.getLast?_eq_none_iff, List.filterMap_eq_nil_iff]

theorem value_eq_some_iff {axis : Axis} {value : Int32} :
    e.value? d axis = some value ↔ e = ⟨d, .axis axis value⟩ := by
  obtain ⟨device, change⟩ := e
  unfold Entry.value?
  by_cases hd : device = d
  · cases change <;> simp [hd]
  · simp [hd]

theorem position_eq_some_iff {hat : UInt8} {position : Hat} :
    e.position? d hat = some position ↔ e = ⟨d, .hat hat position⟩ := by
  obtain ⟨device, change⟩ := e
  unfold Entry.position?
  by_cases hd : device = d
  · cases change <;> simp [hd]
  · simp [hd]

/-- An entry that does not last tells nothing of any axis or hat. -/
theorem not_lasts_iff :
    ¬ e.Lasts d ↔ (∀ axis, e.value? d axis = none) ∧ ∀ hat, e.position? d hat = none := by
  simp only [Option.eq_none_iff_forall_ne_some, ne_eq, value_eq_some_iff, position_eq_some_iff,
    Entry.Lasts, not_or, not_exists]

/-- Nothing is told of the axes and hats of a device exactly if no entry for it lasts. -/
theorem nothing_told_iff :
    ((∀ axis, lastTold (·.value? d axis) es = none) ∧
      ∀ hat, lastTold (·.position? d hat) es = none) ↔ ∀ e ∈ es, ¬ e.Lasts d := by
  simp only [lastTold_eq_none_iff, not_lasts_iff]
  constructor
  · rintro ⟨ha, hh⟩ e he
    exact ⟨fun axis => ha axis e he, fun hat => hh hat e he⟩
  · intro h
    exact ⟨fun axis e he => (h e he).1 axis, fun hat e he => (h e he).2 hat⟩

end

/-! ## Taking a device -/

namespace Joystick

variable {j : Joystick} {d : UInt32}

/-- A device that is available and not taken is taken: its buttons go up. -/
theorem operate_acquire (hv : j.available.contains d = true) (ha : j.isAcquired d = false) :
    j.operate (.acquire d) =
      (.ok none, { j.feed d { j.panel d with buttons := {} } .acquire with
        acquired := j.acquired.insert d }) := by
  have hc : (j.acquire d).value = .ok { j.feed d { j.panel d with buttons := {} } .acquire with
      acquired := j.acquired.insert d } := by
    unfold acquire
    rw [hv, ha]
    rfl
  rw [operate, hc, changed]

/-- Taking a device tells nothing of its axes and hats, and nothing of other devices. -/
theorem site_acquire (hv : j.available.contains d = true) (ha : j.isAcquired d = false) :
    (j.operate (.acquire d)).2.site d = ⟨true, true, { j.panel d with buttons := {} }⟩ ∧
      ∀ other ≠ d, (j.operate (.acquire d)).2.site other = j.site other := by
  rw [operate_acquire hv ha]
  have hs := (alike_take (rfl : j.site d = j.site d) { j.panel d with buttons := {} }).others
  refine ⟨?_, fun other ho => (hs other ho).1⟩
  have hp := j.panel_feed d d { j.panel d with buttons := {} } .acquire
  rw [if_pos rfl] at hp
  exact Site.mk.injEq .. ▸ ⟨hv, by simp [isAcquired], hp⟩

end Joystick

/-- What is left of earlier feeding in a device that is taken anew, after any usage.

- The device is acquired then, and all its buttons are up.
- Its axes and hats show what they were last fed, so that the device looks new exactly if no axis
  and no hat of it was ever fed.
- Nothing has changed for another device, and no other joystick has changed. -/
theorem taken_anew {w : Handles} (h : Usage w) {handle : Nat} (hh : handle < w.owners.size)
    {d : UInt32} (hv : (w.joystick handle).available.contains d = true)
    (ha : (w.joystick handle).isAcquired d = false) :
    let j := w.joystick handle
    let taken := w.apply (.operate handle (.acquire d))
    let next := taken.2.joystick handle
    taken.1 = .ok none ∧ next.isAcquired d = true ∧ (∀ b, next.isPressed ⟨d, b⟩ = false) ∧
    (∀ axis, next.axis? d axis = lastTold (·.value? d axis) j.journal.toList) ∧
    (∀ hat, next.hat? d hat = lastTold (·.position? d hat) j.journal.toList) ∧
    (next.LooksNew d ↔ ∀ e ∈ j.journal.toList, ¬ e.Lasts d) ∧
    (∀ other ≠ d, next.site other = j.site other) ∧
    ∀ other, w.owner other ≠ w.owner handle → taken.2.joystick other = w.joystick other := by
  intro j taken next
  have hk := h.kept
  have hn : next = (j.operate (.acquire d)).2 := by
    rw [show next = taken.2.joystickAt (taken.2.owner handle) from rfl, Handles.owner_apply hh,
      Handles.joystickAt_operate, if_pos ⟨rfl, hk.owner_lt handle hh⟩]
  obtain ⟨hs, ho⟩ := Joystick.site_acquire hv ha
  rw [← hn] at hs ho
  have ht : j.Told := hk.told (w.owner handle)
  have hq : next.isAcquired d = true := congrArg Site.acquired hs
  have hp : next.panel d = { j.panel d with buttons := {} } := congrArg Site.panel hs
  have hb : ∀ b, next.isPressed ⟨d, b⟩ = false := fun b => by
    rw [Joystick.isPressed, hp]
    exact Bank.isDown_empty b
  have hx : ∀ axis, next.axis? d axis = lastTold (·.value? d axis) j.journal.toList := by
    intro axis
    rw [Joystick.axis?, hp]
    exact ht.axis d axis
  have hy : ∀ hat, next.hat? d hat = lastTold (·.position? d hat) j.journal.toList := fun hat => by
    rw [Joystick.hat?, hp]
    exact ht.hat d hat
  refine ⟨?_, hq, hb, hx, hy, ?_, ho, fun other hne => ?_⟩
  · exact congrArg Prod.fst (Joystick.operate_acquire hv ha)
  · unfold Joystick.LooksNew
    simp only [hb, hx, hy, implies_true, true_and, nothing_told_iff]
  · have hj := Handles.joystickAt_operate w handle (.acquire d) (w.owner other)
    rwa [if_neg fun hi => hne hi.1] at hj

/-- A device is handed back with an axis and a button fed, and taken anew by a clone. -/
theorem taken_anew_clone :
    let uses : List Use := [.create [1, 2], .clone 0, .operate 0 (.acquire 1),
      .operate 0 (.setAxis 1 .x 7), .operate 0 (.setButton ⟨1, 3⟩ true), .operate 0 (.relinquish 1)]
    let w := ({} : Handles).follow uses
    let next := (w.apply (.operate 1 (.acquire 1))).2.joystick 1
    (w.joystick 1).isPressed ⟨1, 3⟩ = true ∧ next.isPressed ⟨1, 3⟩ = false ∧
    next.axis? 1 .x = some 7 ∧ next.axis? 1 .y = none ∧ next.site 2 = (w.joystick 1).site 2 := by
  intro uses w next
  have hc : ({} : Handles).canFollow uses = true := by decide +kernel
  obtain ⟨-, -, hb, hx, -, -, ho, -⟩ := taken_anew (Usage.nil.follow hc) (d := 1)
    (show 1 < w.owners.size by decide +kernel) (by decide +kernel) (by decide +kernel)
  refine ⟨by decide +kernel, hb 3, (hx .x).trans (by decide +kernel),
    (hx .y).trans (by decide +kernel), ho 2 (by decide)⟩

/-- Not every device looks new once it is taken: an axis still shows what it was fed before. -/
theorem not_looksNew_of_taken :
    ¬ ∀ w : Handles, Usage w → ∀ handle < w.owners.size, ∀ d,
      (w.joystick handle).available.contains d = true → (w.joystick handle).isAcquired d = false →
        ((w.apply (.operate handle (.acquire d))).2.joystick handle).LooksNew d := by
  intro h
  have hc : ({} : Handles).canFollow [.create [1], .operate 0 (.acquire 1),
      .operate 0 (.setAxis 1 .x 7), .operate 0 (.relinquish 1)] = true := by decide +kernel
  have hn := h _ (Usage.nil.follow hc) 0 (by decide +kernel) 1 (by decide +kernel)
    (by decide +kernel)
  exact absurd (hn.2.1 .x) (by decide +kernel)

end ControlDeck.Device
