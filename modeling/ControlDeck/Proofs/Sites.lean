import ControlDeck.Proofs.Feeding

/-!
# Operations stay with their device

What is done to one device depends on that device alone, and reaches no other one.

- **Sites** (`Site`): all that a joystick knows of one device. Two joysticks agree on some devices
  (`Joystick.Agree`) if they know the same of them and have the same journal entries for them.
- **Alike** (`Joystick.Alike`, `Feeder.Alike`): the same is done to a device in two places, and
  nothing to another one. Joysticks that agree on the device still do so then (`Alike.agree`), and
  other devices are as before (`Alike.elsewhere`).
- **Local operations** (`Feeder.Local`): what a feeder does in two places where it finds the same is
  alike. Every operation on a device is local (`local_setButton`, `local_toggle`,
  `local_relinquish`).
- **Confined operations** (`Feeder.Confined`): operations of a feeder that holds only some devices,
  when they depend on these and reach no other one. Local ones are (`Local.confined`), and so is
  handing all devices back (`confined_relinquishAll`).
-/

namespace ControlDeck.Device

/-! ## Sites -/

/-- All that a joystick knows of one device. -/
structure Site where
  available : Bool
  acquired : Bool
  panel : Panel

namespace Joystick

variable {S : UInt32 → Bool} {d : UInt32} {j j' j'' i i' i'' : Joystick}

/-- What a joystick knows of a device. -/
def site (j : Joystick) (d : UInt32) : Site :=
  ⟨j.available.contains d, j.isAcquired d, j.panel d⟩

/-- The entries for some devices. -/
def journalOf (j : Joystick) (S : UInt32 → Bool) : List Entry :=
  j.journal.toList.filter fun e => S e.device

/-- Two joysticks know the same of some devices, and have the same entries for them. -/
structure Agree (S : UInt32 → Bool) (j i : Joystick) : Prop where
  site : ∀ d, S d = true → j.site d = i.site d
  journal : j.journalOf S = i.journalOf S

theorem Agree.refl (S : UInt32 → Bool) (j : Joystick) : Agree S j j := ⟨fun _ _ => rfl, rfl⟩

theorem Agree.symm (h : Agree S j i) : Agree S i j :=
  ⟨fun d hd => (h.site d hd).symm, h.journal.symm⟩

theorem Agree.trans (h : Agree S j j') (h' : Agree S j' j'') : Agree S j j'' :=
  ⟨fun d hd => (h.site d hd).trans (h'.site d hd), h.journal.trans h'.journal⟩

theorem site_eq_iff :
    j.site d = i.site d ↔
      j.available.contains d = i.available.contains d ∧ j.isAcquired d = i.isAcquired d ∧
        j.panel d = i.panel d := by
  simp [site]

/-- From `j` to `j'` and from `i` to `i'` the same happened to a device, and nothing to another. -/
structure Alike (d : UInt32) (j i j' i' : Joystick) : Prop where
  site : j'.site d = i'.site d
  others : ∀ o ≠ d, j'.site o = j.site o ∧ i'.site o = i.site o
  journal : ∃ changes : List Change,
    j'.journal.toList = j.journal.toList ++ changes.map (⟨d, ·⟩) ∧
      i'.journal.toList = i.journal.toList ++ changes.map (⟨d, ·⟩)

theorem Alike.refl (h : j.site d = i.site d) : Alike d j i j i :=
  ⟨h, fun _ _ => ⟨rfl, rfl⟩, [], by simp⟩

theorem Alike.trans (h : Alike d j i j' i') (h' : Alike d j' i' j'' i'') :
    Alike d j i j'' i'' := by
  obtain ⟨-, ho, changes, hj, hi⟩ := h
  obtain ⟨hs, ho', changes', hj', hi'⟩ := h'
  refine ⟨hs, fun o hd => ⟨(ho' o hd).1.trans (ho o hd).1, (ho' o hd).2.trans (ho o hd).2⟩,
    changes ++ changes', ?_, ?_⟩
  · rw [hj', hj, List.map_append, List.append_assoc]
  · rw [hi', hi, List.map_append, List.append_assoc]

/-- What happens to a device happens in the same way to all joysticks that agree on it. -/
theorem Alike.agree (h : Alike d j i j' i') (ha : Agree S j i) : Agree S j' i' := by
  obtain ⟨hs, ho, changes, hj, hi⟩ := h
  refine ⟨fun o hS => ?_, ?_⟩
  · by_cases hod : o = d
    · rw [hod, hs]
    · rw [(ho o hod).1, (ho o hod).2, ha.site o hS]
  · unfold journalOf
    rw [hj, hi, List.filter_append, List.filter_append]
    exact congrArg (· ++ _) ha.journal

/-- What happens to a device leaves all others alone. -/
theorem Alike.elsewhere (h : Alike d j i j' i') (hd : S d = false) : Agree S j j' := by
  obtain ⟨-, ho, changes, hj, -⟩ := h
  refine ⟨fun o hS => ?_, ?_⟩
  · have hod : o ≠ d := by
      rintro rfl
      rw [hd] at hS
      cases hS
    exact (ho o hod).1.symm
  · have hn : (changes.map (Entry.mk d ·)).filter (fun e => S e.device) = [] := by simp [hd]
    unfold journalOf
    rw [hj, List.filter_append, hn, List.append_nil]

/-! ## What is done to a joystick -/

theorem site_feed (j : Joystick) (p : Panel) (change : Change) (o : UInt32) :
    (j.feed d p change).site o =
      ⟨j.available.contains o, j.isAcquired o, if o = d then p else j.panel o⟩ := by
  rw [site, panel_feed]
  rfl

/-- The same contents are given to a device. -/
theorem alike_feed (h : j.site d = i.site d) (p : Panel) (change : Change) :
    Alike d j i (j.feed d p change) (i.feed d p change) := by
  obtain ⟨hv, ha, -⟩ := site_eq_iff.mp h
  refine ⟨?_, fun o ho => ?_, [change], by simp [feed], by simp [feed]⟩
  · rw [site_feed, site_feed, hv, ha, if_pos rfl, if_pos rfl]
  · rw [site_feed, site_feed, if_neg ho, if_neg ho]
    exact ⟨rfl, rfl⟩

/-- A device is taken. -/
theorem alike_take (h : j.site d = i.site d) (p : Panel) :
    Alike d j i { j.feed d p .acquire with acquired := j.acquired.insert d }
      { i.feed d p .acquire with acquired := i.acquired.insert d } := by
  obtain ⟨hs, ho, hj⟩ := alike_feed h p .acquire
  obtain ⟨hv, -, hp⟩ := site_eq_iff.mp hs
  refine ⟨site_eq_iff.mpr ⟨hv, by simp [isAcquired], hp⟩, fun o hod => ?_, hj⟩
  have hn : ∀ s : DeviceSet, (s.insert d).contains o = s.contains o := fun s => by
    simp [Ne.symm hod]
  obtain ⟨hjo, hio⟩ := ho o hod
  obtain ⟨hjv, -, hjp⟩ := site_eq_iff.mp hjo
  obtain ⟨hiv, -, hip⟩ := site_eq_iff.mp hio
  exact ⟨site_eq_iff.mpr ⟨hjv, hn _, hjp⟩, site_eq_iff.mpr ⟨hiv, hn _, hip⟩⟩

/-- A device is handed back. -/
theorem alike_relinquish (h : j.site d = i.site d) :
    Alike d j i (j.relinquish d).value (i.relinquish d).value := by
  obtain ⟨hv, ha, hp⟩ := site_eq_iff.mp h
  unfold relinquish
  rw [← ha]
  split
  · refine ⟨site_eq_iff.mpr ⟨hv, by simp [isAcquired], hp⟩, fun o hod => ?_, [.relinquish],
      by simp, by simp⟩
    have hn : ∀ s : DeviceSet, (s.erase d).contains o = s.contains o := fun s => by
      simp [Ne.symm hod]
    exact ⟨site_eq_iff.mpr ⟨rfl, hn _, rfl⟩, site_eq_iff.mpr ⟨rfl, hn _, rfl⟩⟩
  · exact Alike.refl h

end Joystick

/-! ## What is done to a backend -/

namespace Backend

/-- Two calls answer the same, and do the same to a device and nothing to another one. -/
structure Alike {α : Type} (d : UInt32) (b c : Backend) (x y : Except DeviceError α × Backend) :
    Prop where
  answer : x.1 = y.1
  faultless : x.2.faults = [] ∧ y.2.faults = []
  joystick : b.joystick.Alike d c.joystick x.2.joystick y.2.joystick

/-- Two joysticks on which no call fails agree on some devices. -/
structure Agree (S : UInt32 → Bool) (b c : Backend) : Prop where
  faultless : b.faults = [] ∧ c.faults = []
  joystick : b.joystick.Agree S c.joystick

variable {S : UInt32 → Bool} {b c b' : Backend}

theorem Agree.symm (h : Agree S b c) : Agree S c b := ⟨h.faultless.symm, h.joystick.symm⟩

theorem Agree.trans (h : Agree S b c) (h' : Agree S c b') : Agree S b b' :=
  ⟨⟨h.faultless.1, h'.faultless.2⟩, h.joystick.trans h'.joystick⟩

theorem alike_acquire {d : UInt32} (hb : b.faults = []) (hc : c.faults = [])
    (h : b.joystick.site d = c.joystick.site d) :
    Alike d b c (b.acquire d).value (c.acquire d).value := by
  obtain ⟨hv, ha, hp⟩ := Joystick.site_eq_iff.mp h
  rw [acquire, acquire, call_value hb, call_value hc]
  unfold Joystick.acquire
  rw [← hv, ← ha, hp]
  cases b.joystick.available.contains d with
  | false => exact ⟨rfl, ⟨hb, hc⟩, .refl h⟩
  | true =>
    cases b.joystick.isAcquired d with
    | true => exact ⟨rfl, ⟨hb, hc⟩, .refl h⟩
    | false => exact ⟨rfl, ⟨hb, hc⟩, Joystick.alike_take h _⟩

theorem alike_setButton {k : ButtonKey} (hb : b.faults = []) (hc : c.faults = [])
    (h : b.joystick.site k.device = c.joystick.site k.device) (down : Bool) :
    Alike k.device b c (b.setButton k down).value (c.setButton k down).value := by
  obtain ⟨-, ha, hp⟩ := Joystick.site_eq_iff.mp h
  rw [setButton, setButton, call_value hb, call_value hc]
  unfold Joystick.setButton Joystick.requireAcquired Joystick.requireButton
  rw [← ha, hp]
  cases b.joystick.isAcquired k.device with
  | false => exact ⟨rfl, ⟨hb, hc⟩, .refl h⟩
  | true =>
    cases hasButton k.button with
    | false => exact ⟨rfl, ⟨hb, hc⟩, .refl h⟩
    | true => exact ⟨rfl, ⟨hb, hc⟩, Joystick.alike_feed h _ _⟩

theorem alike_buttonState {k : ButtonKey} (hb : b.faults = []) (hc : c.faults = [])
    (h : b.joystick.site k.device = c.joystick.site k.device) :
    Alike k.device b c (b.buttonState k).value (c.buttonState k).value := by
  obtain ⟨-, ha, hp⟩ := Joystick.site_eq_iff.mp h
  rw [buttonState, buttonState, call_value hb, call_value hc]
  unfold Joystick.buttonState Joystick.requireAcquired Joystick.requireButton Joystick.isPressed
  rw [← ha, hp]
  cases b.joystick.isAcquired k.device with
  | false => exact ⟨rfl, ⟨hb, hc⟩, .refl h⟩
  | true =>
    cases hasButton k.button with
    | false => exact ⟨rfl, ⟨hb, hc⟩, .refl h⟩
    | true => exact ⟨rfl, ⟨hb, hc⟩, .refl h⟩

end Backend

/-! ## What a feeder does -/

namespace Feeder

variable {S : UInt32 → Bool} {d : UInt32} {f g f' g' f'' g'' : Feeder}

/-- Two feeders find the same at a device, and hold the same devices. -/
structure Same (d : UInt32) (f g : Feeder) : Prop where
  held : f.held = g.held
  faultless : f.backend.faults = [] ∧ g.backend.faults = []
  site : f.joystick.site d = g.joystick.site d

/-- Two feeders do the same to a device, and nothing to another one. -/
structure Alike (d : UInt32) (f g f' g' : Feeder) : Prop where
  held : f'.held = g'.held
  gained : ∀ o, f'.held.contains o = true → f.held.contains o = true ∨ o = d
  faultless : f'.backend.faults = [] ∧ g'.backend.faults = []
  joystick : f.joystick.Alike d g.joystick f'.joystick g'.joystick

/-- What a feeder does wherever it finds the same at a device is the same, and only to this one. -/
def Local (d : UInt32) (operation : Feeder → Logged Feeder) : Prop :=
  ∀ f g, Same d f g → Alike d f g (operation f).value (operation g).value

theorem Alike.refl (h : Same d f g) : Alike d f g f g :=
  ⟨h.held, fun _ => .inl, h.faultless, .refl h.site⟩

theorem Alike.trans (h : Alike d f g f' g') (h' : Alike d f' g' f'' g'') :
    Alike d f g f'' g'' where
  held := h'.held
  gained o ho := (h'.gained o ho).elim (h.gained o) .inr
  faultless := h'.faultless
  joystick := h.joystick.trans h'.joystick

theorem Alike.same (h : Alike d f g f' g') : Same d f' g' :=
  ⟨h.held, h.faultless, h.joystick.site⟩

theorem contains_of_erase {held : DeviceSet} {o : UInt32} (h : (held.erase d).contains o = true) :
    held.contains o = true := by
  rw [Std.TreeSet.contains_erase, Bool.and_eq_true] at h
  exact h.2

theorem Alike.absorb (h : Alike d f g f' g') (e : DeviceError) :
    Alike d f g (f'.absorb d e).value (g'.absorb d e).value := by
  cases e with
  | notAcquired =>
    exact ⟨congrArg (·.erase d) h.held, fun o ho => h.gained o (contains_of_erase ho), h.faultless,
      h.joystick⟩
  | _ => exact h

/-- Once a call has gone alike, the feeders go on alike. -/
theorem alike_settle (h : Same d f g) {x y : Except DeviceError Unit × Backend}
    (hc : f.backend.Alike d g.backend x y) :
    Alike d f g (f.settle d x).value (g.settle d y).value := by
  obtain ⟨answer, b⟩ := x
  obtain ⟨answer', c⟩ := y
  obtain ⟨rfl, hf, hj⟩ := hc
  have ha : Alike d f g { f with backend := b } { g with backend := c } :=
    ⟨h.held, fun _ => .inl, hf, hj⟩
  cases answer with
  | ok => exact ha
  | error e => exact ha.absorb e

/-- A device is gained in both places or in none. -/
theorem alike_ensureAcquired (h : Same d f g) :
    (f.ensureAcquired d).value.1 = (g.ensureAcquired d).value.1 ∧
      Alike d f g (f.ensureAcquired d).value.2 (g.ensureAcquired d).value.2 := by
  unfold ensureAcquired
  rw [← h.held]
  split
  · exact ⟨rfl, .refl h⟩
  · obtain ⟨hx, hf, hj⟩ := Backend.alike_acquire h.faultless.1 h.faultless.2 h.site
    simp only [Logged.value_bind]
    generalize (f.backend.acquire d).value = x at *
    generalize (g.backend.acquire d).value = y at *
    obtain ⟨answer, b⟩ := x
    obtain ⟨answer', c⟩ := y
    obtain rfl : answer = answer' := hx
    cases answer with
    | ok =>
      refine ⟨rfl, rfl, fun o ho => ?_, hf, hj⟩
      replace ho : (f.held.insert d).contains o = true := ho
      rw [Std.TreeSet.contains_insert, Bool.or_eq_true, beq_iff_eq, Std.compare_eq_iff_eq] at ho
      exact ho.symm.imp_right Eq.symm
    | error e => exact ⟨rfl, rfl, fun _ => .inl, hf, hj⟩

theorem Local.withDevice {write : Feeder → Logged Feeder} (h : Local d write) :
    Local d (·.withDevice d write) := by
  intro f g hs
  obtain ⟨hx, ha⟩ := alike_ensureAcquired hs
  simp only [Feeder.withDevice, Logged.value_bind, Logged.value_ite, Logged.value_pure, ← hx]
  split
  · exact ha.trans (h _ _ ha.same)
  · exact ha

theorem local_setButton (k : ButtonKey) (down : Bool) : Local k.device (·.setButton k down) :=
  Local.withDevice fun _ _ h =>
    alike_settle h (Backend.alike_setButton h.faultless.1 h.faultless.2 h.site down)

theorem local_toggle (k : ButtonKey) : Local k.device (·.toggle k) := by
  refine Local.withDevice fun f g h => ?_
  obtain ⟨hx, hf, hj⟩ := Backend.alike_buttonState h.faultless.1 h.faultless.2 h.site
  simp only [Logged.value_bind]
  generalize (f.backend.buttonState k).value = x at *
  generalize (g.backend.buttonState k).value = y at *
  obtain ⟨answer, b⟩ := x
  obtain ⟨answer', c⟩ := y
  obtain rfl : answer = answer' := hx
  have ha : Alike k.device f g { f with backend := b } { g with backend := c } :=
    ⟨h.held, fun _ => .inl, hf, hj⟩
  cases answer with
  | ok pressed => exact ha.trans (local_setButton k (!pressed) _ _ ha.same)
  | error e => exact ha.absorb e

theorem local_relinquish (d : UInt32) : Local d (·.relinquish d) := fun _ _ h =>
  ⟨congrArg (·.erase d) h.held, fun _ ho => .inl (contains_of_erase ho), h.faultless,
    Joystick.alike_relinquish h.site⟩

/-! ## Operations that stay within some devices -/

/-- Two feeders hold the same devices, and their joysticks agree on some devices. -/
structure Agree (S : UInt32 → Bool) (f g : Feeder) : Prop where
  held : f.held = g.held
  backend : f.backend.Agree S g.backend

/-- All devices that a feeder holds are among some. -/
def HoldsOnly (S : UInt32 → Bool) (f : Feeder) : Prop :=
  ∀ d, f.held.contains d = true → S d = true

/-- From `f` to `f'` nothing happened to devices other than some. -/
structure Stays (S : UInt32 → Bool) (f f' : Feeder) : Prop where
  holds : HoldsOnly S f'
  elsewhere : ∀ T : UInt32 → Bool, (∀ d, S d = true → T d = false) →
    f.backend.Agree T f'.backend

/-- What a feeder does that holds only some devices depends on these, and reaches no other one. -/
structure Confined (S : UInt32 → Bool) (operation : Feeder → Logged Feeder) : Prop where
  agree : ∀ f g, HoldsOnly S f → Agree S f g → Agree S (operation f).value (operation g).value
  stays : ∀ f, HoldsOnly S f → f.backend.faults = [] → Stays S f (operation f).value

theorem Stays.refl (hh : HoldsOnly S f) (hb : f.backend.faults = []) : Stays S f f :=
  ⟨hh, fun T _ => ⟨⟨hb, hb⟩, .refl T _⟩⟩

theorem Stays.trans (h : Stays S f f') (h' : Stays S f' f'') : Stays S f f'' :=
  ⟨h'.holds, fun T hT => (h.elsewhere T hT).trans (h'.elsewhere T hT)⟩

theorem Stays.faultless (h : Stays S f f') : f'.backend.faults = [] :=
  (h.elsewhere (fun _ => false) fun _ _ => rfl).faultless.2

/-- Doing nothing is confined to any devices. -/
theorem confined_pure (S : UInt32 → Bool) : Confined S pure :=
  ⟨fun _ _ _ h => h, fun _ => Stays.refl⟩

/-- An operation on a device is confined to any devices that it is one of. -/
theorem Local.confined {operation : Feeder → Logged Feeder} (h : Local d operation)
    (hd : S d = true) : Confined S operation where
  agree f g _ ha := by
    have hx := h f g ⟨ha.held, ha.backend.faultless, ha.backend.joystick.site d hd⟩
    exact ⟨hx.held, hx.faultless, hx.joystick.agree ha.backend.joystick⟩
  stays f hh hb := by
    have hx := h f f ⟨rfl, ⟨hb, hb⟩, rfl⟩
    refine ⟨fun o ho => ?_,
      fun T hT => ⟨⟨hb, hx.faultless.1⟩, hx.joystick.elsewhere (hT d hd)⟩⟩
    rcases hx.gained o ho with ho | rfl
    · exact hh o ho
    · exact hd

/-- What is confined one after the other is confined. -/
theorem Confined.foldlM {operation : Feeder → UInt32 → Logged Feeder} {ds : List UInt32}
    (h : ∀ d ∈ ds, Confined S (operation · d)) : Confined S (ds.foldlM operation ·) := by
  induction ds with
  | nil => exact confined_pure S
  | cons d ds ih =>
    rw [List.forall_mem_cons] at h
    obtain ⟨hd, hds⟩ := h
    refine ⟨fun f g hh ha => ?_, fun f hh hb => ?_⟩
    · have hs := hd.stays f hh ha.backend.faultless.1
      exact (ih hds).agree _ _ hs.holds (hd.agree f g hh ha)
    · have hs := hd.stays f hh hb
      exact hs.trans ((ih hds).stays _ hs.holds hs.faultless)

/-- Handing all devices back is confined to any devices that all of them are among. -/
theorem confined_relinquishAll (S : UInt32 → Bool) : Confined S relinquishAll := by
  have hc : ∀ f, HoldsOnly S f → Confined S (f.heldDevices.foldlM relinquish ·) := fun f hh =>
    Confined.foldlM fun d hd =>
      (local_relinquish d).confined (hh d (by simpa [heldDevices] using hd))
  refine ⟨fun f g hh ha => ?_, fun f hh => (hc f hh).stays f hh⟩
  unfold relinquishAll
  rw [show g.heldDevices = f.heldDevices from congrArg Std.TreeSet.toList ha.held.symm]
  exact (hc f hh).agree f g hh ha

end Feeder

end ControlDeck.Device
