import ControlDeck.Proofs.Draining
import ControlDeck.Proofs.Touches

/-!
# A feeder knows what it holds

A feeder that is driven by hand, on a joystick that others may use too.

- **Operated joysticks** (`Joystick.Operated`): those that some operations lead to. Their journal
  tells what has changed on the way (`Operated.grown`), and that taking a device and handing it back
  take turns (`Operated.alternates`).
- **Happenings** (`Happening`, `Manual.meet`): what can happen to the feeder or to its joystick.
  Each leads to an operated joystick (`Manual.operated_meet`).
- **Honest feeders** (`Feeder.Honest`): those that hold exactly the devices that are acquired. It
  stays so as long as nobody else acquires devices or hands them back (`Manual.honest_meet`).
- `held_iff_acquired`: what follows for a joystick that one feeder has for itself.
-/

namespace ControlDeck

namespace Device

/-! ## Operated joysticks -/

namespace Joystick

/-- A joystick after some operations. -/
def operateAll (j : Joystick) (operations : List Operation) : Joystick :=
  operations.foldl (fun j c => (j.operate c).2) j

/-- Some operations lead from one joystick to the other. -/
def Operated (j next : Joystick) : Prop := ∃ operations, next = j.operateAll operations

/-- The takings and handings back of a device, in order. -/
def takings (j : Joystick) (d : UInt32) : List Bool := j.journal.toList.filterMap (·.taken? d)

/-- The takings and handings back of every device take turns, a taking comes first, and a device is
acquired if the last one was a taking. -/
def Alternates (j : Joystick) : Prop :=
  ∀ d, (∀ (i : Nat) taken, (j.takings d)[i]? = some taken → (taken = true ↔ i % 2 = 0)) ∧
    (j.isAcquired d = true ↔ (j.takings d).length % 2 = 1)

variable {j next other : Joystick}

/-- A device is taken only if it is not acquired, and handed back only if it is. -/
theorem isAcquired_of_taken? {c : Operation} {d : UInt32} {taken : Bool}
    (h : (j.entry? c).bind (·.taken? d) = some taken) : j.isAcquired d = !taken := by
  obtain ⟨e, he, ht⟩ := Option.bind_eq_some_iff.mp h
  unfold entry? at he
  split at he
  · cases c with
    | acquire o =>
      dsimp only at he
      split at he
      · cases he
      · rename_i ha
        cases he
        simp only [Entry.taken?, Option.ite_none_right_eq_some, Option.some.injEq] at ht
        obtain ⟨rfl, rfl⟩ := ht
        simpa using ha
    | relinquish o =>
      dsimp only at he
      split at he
      · rename_i ha
        cases he
        simp only [Entry.taken?, Option.ite_none_right_eq_some, Option.some.injEq] at ht
        obtain ⟨rfl, rfl⟩ := ht
        exact ha
      · cases he
    | setButton | setAxis | setHat =>
      cases he
      simp [Entry.taken?] at ht
    | buttonState | setAvailable => cases he
  · cases he

theorem takings_operate (j : Joystick) (c : Operation) (d : UInt32) :
    (j.operate c).2.takings d = j.takings d ++ ((j.entry? c).bind (·.taken? d)).toList := by
  unfold takings
  rw [journal_operate, List.filterMap_append]
  cases j.entry? c with
  | none => rfl
  | some e => cases h : e.taken? d <;> simp [h]

theorem alternates_ofAvailable (devices : List UInt32) : (ofAvailable devices).Alternates :=
  fun _ => ⟨nofun, by simp [ofAvailable, isAcquired, takings]⟩

theorem Alternates.operate (h : j.Alternates) (c : Operation) : (j.operate c).2.Alternates := by
  intro d
  obtain ⟨ht, ha⟩ := h d
  have hn := (j.follows_operate c).acquired d
  rw [takings_operate, hn]
  cases he : (j.entry? c).bind (·.taken? d) with
  | none =>
    rw [Option.toList_none, List.append_nil, Option.getD_none]
    exact ⟨ht, ha⟩
  | some taken =>
    have hd := isAcquired_of_taken? he
    rw [hd] at ha
    rw [Option.toList_some, Option.getD_some, List.length_append, List.length_singleton]
    refine ⟨fun i b hb => ?_, ?_⟩
    · rw [List.getElem?_append] at hb
      split at hb
      · exact ht i b hb
      · rw [List.getElem?_singleton] at hb
        split at hb
        · obtain rfl : taken = b := Option.some.inj hb
          cases taken <;> simp at ha ⊢ <;> omega
        · cases hb
    · cases taken <;> simp at ha ⊢ <;> omega

theorem operateAll_append (j : Joystick) (left right : List Operation) :
    j.operateAll (left ++ right) = (j.operateAll left).operateAll right :=
  List.foldl_append

/-- The journal has grown by entries that tell which devices and buttons have changed, and how. -/
structure Grown (j next : Joystick) (gained : List Entry) : Prop where
  journal : next.journal.toList = j.journal.toList ++ gained
  acquired : ∀ d, next.isAcquired d = (lastTold (·.taken? d) gained).getD (j.isAcquired d)
  pressed : ∀ k, next.isPressed k = (lastTold (·.down? k) gained).getD (j.isPressed k)

namespace Grown

variable {gained : List Entry}

/-- Without a taking or a handing back, no entry for it was made. -/
theorem taken?_eq_none (h : j.Grown next gained) {d : UInt32}
    (ht : next.takings d = j.takings d) {e : Entry} (he : e ∈ gained) : e.taken? d = none := by
  have hg : next.takings d = j.takings d ++ gained.filterMap (·.taken? d) := by
    unfold takings
    rw [h.journal, List.filterMap_append]
  rw [hg, List.append_right_eq_self, List.filterMap_eq_nil_iff] at ht
  exact ht e he

/-- A device that is not acquired any more was handed back. -/
theorem relinquish_mem (h : j.Grown next gained) {d : UInt32} (hd : j.isAcquired d = true)
    (hn : next.isAcquired d = false) : ⟨d, .relinquish⟩ ∈ gained := by
  have ht : lastTold (·.taken? d) gained = some false := by
    have ha := h.acquired d
    rw [hd, hn] at ha
    cases hl : lastTold (·.taken? d) gained with
    | none =>
      rw [hl] at ha
      cases ha
    | some taken =>
      rw [hl] at ha
      exact congrArg some ha.symm
  obtain ⟨before, ⟨device, change⟩, between, rfl, he, -⟩ := exists_of_lastTold ht
  have hm : (⟨device, change⟩ : Entry) = ⟨d, .relinquish⟩ := by
    unfold Entry.taken? at he
    split at he
    · cases change <;> simp_all
    · cases he
  rw [hm]
  exact List.mem_append_right _ List.mem_cons_self

/-- A button stays as it is if it is not written to and its device is not taken anew. -/
theorem isPressed_eq (h : j.Grown next gained) {k : ButtonKey}
    (ha : ⟨k.device, .acquire⟩ ∉ gained) (hw : ∀ down, ⟨k.device, .button k.button down⟩ ∉ gained) :
    next.isPressed k = j.isPressed k := by
  have hn : gained.filterMap (·.down? k) = [] := by
    refine List.filterMap_eq_nil_iff.mpr ?_
    rintro ⟨device, change⟩ he
    unfold Entry.down?
    split
    · rename_i hd
      obtain rfl : device = k.device := hd
      cases change with
      | acquire => exact absurd he ha
      | button button down =>
        refine if_neg ?_
        rintro rfl
        exact hw down he
      | _ => rfl
    · rfl
  rw [h.pressed, lastTold, hn]
  rfl

end Grown

namespace Operated

theorem refl (j : Joystick) : j.Operated j := ⟨[], rfl⟩

theorem trans (h : j.Operated next) (h' : next.Operated other) : j.Operated other := by
  obtain ⟨left, rfl⟩ := h
  obtain ⟨right, rfl⟩ := h'
  exact ⟨left ++ right, (operateAll_append ..).symm⟩

theorem operate (j : Joystick) (c : Operation) : j.Operated (j.operate c).2 := ⟨[c], rfl⟩

/-- What every operation keeps holds of an operated joystick. -/
theorem induct {P : Joystick → Prop} (h : j.Operated next)
    (hp : ∀ (j : Joystick) c, P j → P (j.operate c).2) (hj : P j) : P next := by
  obtain ⟨operations, rfl⟩ := h
  induction operations generalizing j with
  | nil => exact hj
  | cons c operations ih => exact ih (hp j c hj)

theorem alternates (h : j.Operated next) (hj : j.Alternates) : next.Alternates :=
  h.induct (fun _ c hj => hj.operate c) hj

/-- The journal has grown. -/
theorem grown (h : j.Operated next) : ∃ gained, j.Grown next gained := by
  refine h.induct (P := fun i => ∃ gained, j.Grown i gained) ?_
    ⟨[], (List.append_nil _).symm, fun _ => rfl, fun _ => rfl⟩
  rintro i c ⟨gained, hj, ha, hp⟩
  have hf := i.follows_operate c
  refine ⟨gained ++ (i.entry? c).toList, ?_, fun d => ?_, fun k => ?_⟩
  · rw [hf.journal, hj, List.append_assoc]
  · rw [hf.acquired, ha]
    cases i.entry? c with
    | none => simp
    | some e =>
      rw [Option.toList_some, lastTold_concat, Option.bind_some]
      cases e.taken? d <;> rfl
  · rw [hf.pressed, hp]
    cases i.entry? c with
    | none => simp
    | some e =>
      rw [Option.toList_some, lastTold_concat, Option.bind_some]
      cases e.down? k <;> rfl

end Operated

/-- A device that could be acquired is acquired. -/
theorem isAcquired_of_acquire {d : UInt32} {down? : Option Bool}
    (h : (j.operate (.acquire d)).1 = .ok down?) :
    (j.operate (.acquire d)).2.isAcquired d = true := by
  obtain ⟨e, he⟩ | ⟨ha, he⟩ | ⟨-, next, he, hn⟩ := j.acquire_cases d
  · simp [operate, changed, he] at h
  · simpa [operate, changed, he] using ha
  · simp [operate, changed, he, hn.acquired, Entry.taken?]

/-- An operation answers that a device is not acquired only if it is not. -/
theorem isAcquired_of_notAcquired {c : Operation} {o : UInt32}
    (h : (j.operate c).1 = .error (.notAcquired o)) : j.isAcquired c.device = false := by
  cases ha : j.isAcquired c.device with
  | false => rfl
  | true =>
    cases c with
    | acquire d =>
      replace ha : j.isAcquired d = true := ha
      unfold operate acquire at h
      cases hv : j.available.contains d <;> simp [hv, ha, changed] at h
    | relinquish | setAvailable => cases h
    | setButton k down =>
      replace ha : j.isAcquired k.device = true := ha
      unfold operate setButton requireAcquired requireButton at h
      cases hb : hasButton k.button <;>
        simp [ha, hb, changed, bind, Except.bind, pure, Except.pure] at h
    | buttonState k =>
      replace ha : j.isAcquired k.device = true := ha
      unfold operate buttonState requireAcquired requireButton at h
      cases hb : hasButton k.button <;>
        simp [ha, hb, Except.map, bind, Except.bind, pure, Except.pure] at h
    | setAxis d axis value =>
      replace ha : j.isAcquired d = true := ha
      unfold operate setAxis requireAcquired at h
      simp [ha, changed, bind, Except.bind, pure, Except.pure] at h
    | setHat d hat position =>
      replace ha : j.isAcquired d = true := ha
      unfold operate setHat requireAcquired at h
      simp [ha, changed, bind, Except.bind, pure, Except.pure] at h

/-- Handing a device back leaves all others acquired. -/
theorem isAcquired_relinquish (j : Joystick) {d o : UInt32} :
    (j.relinquish d).value.isAcquired o = (j.isAcquired o && !decide (o = d)) := by
  have ha := (j.follows_operate (.relinquish d)).acquired o
  refine ha.trans ?_
  cases hd : j.isAcquired d <;> by_cases ho : o = d <;>
    simp [operate, entry?, Except.isOk, Except.toBool, Entry.taken?, hd, ho, @eq_comm _ d o]

end Joystick

namespace Feeder

/-- Whatever a script asks, it operates the joystick. -/
theorem operated_play (s : Script) (f : Feeder) : f.joystick.Operated (s.play f).2.joystick := by
  have ha : ∀ (f : Feeder) c, f.joystick.Operated (f.ask c).2.joystick := by
    intro f c
    cases h : (f.ask c).1 with
    | ok down? =>
      rw [(ask_ok h).2]
      exact .operate f.joystick c
    | error e =>
      rw [(ask_error h).2]
      exact .refl _
  induction s generalizing f with
  | done => exact .refl _
  | ask call next ih =>
    cases h : (f.ask call).1 with
    | ok down? =>
      rw [Script.play_of_ok h]
      exact (ha f call).trans (ih down? _)
    | error e =>
      rw [Script.play_of_error h]
      exact ha f call

theorem operated_releaseAll (f : Feeder) (keys : List ButtonKey) :
    f.joystick.Operated (f.releaseAll keys).joystick := by
  induction keys generalizing f with
  | nil => exact .refl _
  | cons k keys ih =>
    have hk : f.joystick.Operated (f.release k).value.joystick := by
      have hv : (f.setButton k false).value = _ := (f.setButton_plays k false).value
      rw [release, hv]
      exact operated_play ..
    exact hk.trans (ih _)

/-! ## Handing back -/

theorem operated_relinquishAll (f : Feeder) :
    f.joystick.Operated f.relinquishAll.value.joystick := by
  unfold relinquishAll
  generalize f.heldDevices = ds
  induction ds generalizing f with
  | nil => exact .refl _
  | cons d ds ih =>
    rw [List.foldlM_cons]
    exact (Joystick.Operated.operate f.joystick (.relinquish d)).trans (ih (f.relinquish d).value)

/-- Handing all devices back leaves those acquired that were not held. -/
theorem isAcquired_relinquishAll (f : Feeder) (o : UInt32) :
    f.relinquishAll.value.joystick.isAcquired o =
      (f.joystick.isAcquired o && !f.held.contains o) := by
  suffices h : ∀ (ds : List UInt32) (f : Feeder),
      (ds.foldlM relinquish f).value.joystick.isAcquired o =
        (f.joystick.isAcquired o && !decide (o ∈ ds)) by
    refine (h f.heldDevices f).trans ?_
    simp only [mem_heldDevices, Bool.decide_eq_true]
  intro ds
  induction ds with
  | nil => simp
  | cons d ds ih =>
    intro f
    rw [List.foldlM_cons]
    refine (ih (f.relinquish d).value).trans ?_
    rw [show (f.relinquish d).value.joystick.isAcquired o = _ from f.joystick.isAcquired_relinquish]
    by_cases ho : o = d <;> simp [ho]

/-! ## Lost devices -/

/-- Only a call for a device that is not acquired finds it lost. -/
theorem isAcquired_of_lost {f : Feeder} {c : Operation}
    (h : (Contact.mk c (f.ask c).1).lost = true) : f.joystick.isAcquired c.device = false := by
  obtain ⟨o, ho⟩ : ∃ o, (f.ask c).1 = .error (.notAcquired o) := by
    unfold Contact.lost at h
    split at h
    · exact ⟨_, ‹_›⟩
    · cases h
  obtain ⟨⟨message, hm⟩ | he, -⟩ := ask_error ho
  · cases hm
  · exact Joystick.isAcquired_of_notAcquired he

/-- A touch finds its device lost only if it is held without being acquired. -/
theorem held_of_lost {f : Feeder} {t : Touch} (h : (f.contacts t).1.any (·.lost) = true) :
    f.held.contains t.device = true ∧ f.joystick.isAcquired t.device = false := by
  have hs : ∀ g : Feeder, (t.script.play g).1.any (·.lost) = true →
      g.joystick.isAcquired t.device = false := by
    intro g hg
    cases t with
    | toggle k =>
      unfold Touch.script at hg
      cases ha : (g.ask (.buttonState k)).1 with
      | ok down? =>
        rw [Script.play_of_ok ha, Script.play_one] at hg
        have hj : (g.ask (.buttonState k)).2.joystick = g.joystick := (ask_ok ha).2
        rw [← hj]
        exact isAcquired_of_lost (c := .setButton k _) (by simpa [Contact.lost] using hg)
      | error e =>
        rw [Script.play_of_error ha] at hg
        exact isAcquired_of_lost (c := .buttonState k) (by simpa [ha] using hg)
    | _ =>
      unfold Touch.script at hg
      rw [Script.play_one] at hg
      exact isAcquired_of_lost (by simpa using hg)
  obtain ⟨hh, hc⟩ | ⟨-, ⟨e, ha, hc⟩ | ⟨down?, ha, hc⟩⟩ := f.contacts_cases t
  · rw [hc] at h
    exact ⟨hh, hs f h⟩
  · have he := f.ask_acquire_ne_lost t.device
    rw [hc] at h
    cases e with
    | notAcquired o => exact absurd ha (he o)
    | _ => cases h
  · -- a device that was just acquired is not lost
    rw [hc] at h
    obtain ⟨ho, hj⟩ := ask_ok ha
    have hn := hs _ (by simpa [Contact.lost] using h)
    rw [hj, Joystick.isAcquired_of_acquire ho] at hn
    cases hn

/-! ## Honest feeders -/

theorem heldDevices_ascending (f : Feeder) : f.heldDevices.Pairwise (· < ·) := by
  have ho : f.heldDevices.Pairwise fun a b => compare a b = .lt := Std.TreeSet.ordered_toList
  exact ho.imp fun h => compareOfLessAndEq_eq_lt.mp h

/-- A feeder that holds exactly the devices that are acquired. -/
def Honest (f : Feeder) : Prop := ∀ d, f.held.contains d = f.joystick.isAcquired d

theorem honest_ofAvailable (devices : List UInt32) :
    Honest { backend := { joystick := Joystick.ofAvailable devices } } :=
  fun _ => rfl

variable {f : Feeder}

/-- Whatever fails, a touch keeps a feeder honest. -/
theorem Honest.contacts (h : f.Honest) (t : Touch) : (f.contacts t).2.Honest := by
  have hl : (f.contacts t).1.any (·.lost) = false := by
    refine Bool.eq_false_iff.mpr fun hl => ?_
    obtain ⟨hh, ha⟩ := held_of_lost hl
    exact Bool.false_ne_true ((ha.symm.trans (h t.device).symm).trans hh)
  intro o
  rw [contains_contacts, (f.contacts_spec t).2.1 o, hl, takes, h o]
  by_cases ho : o = t.device
  · subst ho
    cases f.joystick.isAcquired t.device <;> simp
  · simp [ho]

/-- Handing all devices back leaves none held. -/
theorem not_held_relinquishAll (f : Feeder) (d : UInt32) :
    f.relinquishAll.value.held.contains d = false := by
  refine Bool.eq_false_iff.mpr fun hd => ?_
  have hm := mem_heldDevices.mpr hd
  rw [relinquishAll_held] at hm
  exact List.not_mem_nil hm

/-- Handing all devices back leaves none acquired that an honest feeder held. -/
theorem Honest.relinquishAll (h : f.Honest) (d : UInt32) :
    f.relinquishAll.value.joystick.isAcquired d = false := by
  rw [isAcquired_relinquishAll, h d, Bool.and_not_self]

/-- A touch takes no device that is acquired, and hands none back. -/
theorem takings_contacts (f : Feeder) (t : Touch) {d : UInt32}
    (hd : f.joystick.isAcquired d = true) :
    (f.contacts t).2.joystick.takings d = f.joystick.takings d := by
  have hw : (f.written? t).toList.filterMap (·.taken? d) = [] := by
    have hn := f.written?_bind_taken? t d
    cases hf : f.written? t with
    | none => rfl
    | some e =>
      rw [hf] at hn
      exact List.filterMap_cons_none hn
  have ht :
      (if f.takes t then [Entry.mk t.device .acquire] else []).filterMap (·.taken? d) = [] := by
    by_cases ho : t.device = d
    · simp [takes, ho, hd]
    · cases f.takes t <;> simp [Entry.taken?, ho]
  unfold Joystick.takings
  rw [(f.contacts_spec t).1, List.filterMap_append, List.filterMap_append, hw, ht,
    List.append_nil, List.append_nil]

end Feeder

end Device

namespace Dispatch

open Device

/-! ## Happenings -/

/-- What can happen to a feeder that is driven by hand or to its joystick: it is touched, or hands
all its devices back; somebody else operates the joystick; a worker that feeds the joystick too
cleans up; and which calls of the feeder are to meet a fault. -/
inductive Happening
  | touch (t : Touch)
  | relinquishAll
  | outside (c : Operation)
  | shutdown (w : Worker) (faults : List String) (spared : Nat) (now : Moment)
  | inject (faults : List String) (spared : Nat)

/-- Whether it is the feeder's own doing, or leaves the devices alone that are acquired. -/
def Happening.isOwn : Happening → Bool
  | .touch _ | .relinquishAll | .inject .. | .outside (.setAvailable ..) => true
  | .outside _ | .shutdown .. => false

namespace Manual

/-- A new feeder, on a new joystick. -/
def start (devices : List UInt32) : Manual :=
  { feeder := { backend := { joystick := Joystick.ofAvailable devices } } }

/-- The joystick of a feeder that is driven by hand. -/
abbrev joystick (m : Manual) : Joystick := m.feeder.joystick

/-- What is done by a happening. -/
def meet (m : Manual) : Happening → Manual
  | .touch t => (m.touch t).value.2
  | .relinquishAll => (m.feed (·.relinquishAll)).value
  | .outside c => { m with feeder.backend.joystick := (m.joystick.operate c).2 }
  | .shutdown w faults spared now =>
    let b := (w.drain ⟨m.joystick, faults, spared⟩ now).value.2
    { m with feeder.backend.joystick := b.joystick }
  | .inject faults spared =>
    { m with feeder.backend := ⟨m.joystick, faults, spared⟩ }

/-- What is done by some happenings, one after the other. -/
def meetAll (m : Manual) (events : List Happening) : Manual := events.foldl meet m

/-- Whatever happens, it operates the joystick. -/
theorem operated_meet (m : Manual) (e : Happening) : m.joystick.Operated (m.meet e).joystick := by
  cases e with
  | touch t =>
    have hf : (m.meet (.touch t)).feeder = _ := (m.touch_plays t).value
    unfold joystick
    rw [hf]
    exact Feeder.operated_play ..
  | relinquishAll => exact m.feeder.operated_relinquishAll
  | outside c => exact .operate m.joystick c
  | shutdown w faults spared now =>
    let b : Backend := ⟨m.joystick, faults, spared⟩
    let f := (w.feeder b).releaseAll (w.flushed ++ w.cutShort)
    have hd : (w.drain b now).value.2.joystick = f.relinquishAll.value.joystick :=
      congrArg (·.2.joystick) (w.drain_value b now)
    show m.joystick.Operated (w.drain b now).value.2.joystick
    rw [hd]
    exact ((w.feeder b).operated_releaseAll _).trans f.operated_relinquishAll
  | inject faults spared => exact .refl _

variable {m : Manual} {events : List Happening} {d : UInt32}

theorem operated_meetAll (m : Manual) (events : List Happening) :
    m.joystick.Operated (m.meetAll events).joystick := by
  induction events generalizing m with
  | nil => exact .refl _
  | cons e events ih => exact (m.operated_meet e).trans (ih _)

/-- A feeder that has a joystick for itself stays honest. -/
theorem honest_meet (h : m.feeder.Honest) {e : Happening} (he : e.isOwn = true) :
    (m.meet e).feeder.Honest := by
  cases e with
  | touch t =>
    have hf : (m.meet (.touch t)).feeder = _ := (m.touch_plays t).value
    rw [hf]
    exact h.contacts t
  | relinquishAll =>
    exact fun d => (m.feeder.not_held_relinquishAll d).trans (h.relinquishAll d).symm
  | outside c =>
    cases c with
    | setAvailable d on => exact h
    | _ => cases he
  | shutdown => cases he
  | inject faults spared => exact h

theorem honest_meetAll (h : m.feeder.Honest) (he : ∀ e ∈ events, e.isOwn = true) :
    (m.meetAll events).feeder.Honest := by
  induction events generalizing m with
  | nil => exact h
  | cons e events ih =>
    rw [List.forall_mem_cons] at he
    exact ih (honest_meet h he.1) he.2

/-- A device that is acquired stays so until all devices are handed back, and is not taken anew. -/
theorem takings_meet {e : Happening} (he : e.isOwn = true) (hr : e ≠ .relinquishAll)
    (hd : m.joystick.isAcquired d = true) :
    (m.meet e).joystick.isAcquired d = true ∧
      (m.meet e).joystick.takings d = m.joystick.takings d := by
  cases e with
  | touch t =>
    have hf : (m.meet (.touch t)).feeder = _ := (m.touch_plays t).value
    unfold joystick
    rw [hf]
    refine ⟨?_, m.feeder.takings_contacts t hd⟩
    rw [(m.feeder.contacts_spec t).2.1, hd, Bool.true_or]
  | relinquishAll => exact absurd rfl hr
  | outside c =>
    cases c with
    | setAvailable o on => exact ⟨hd, rfl⟩
    | _ => cases he
  | shutdown => cases he
  | inject faults spared => exact ⟨hd, rfl⟩

theorem takings_meetAll (he : ∀ e ∈ events, e.isOwn = true ∧ e ≠ .relinquishAll)
    (hd : m.joystick.isAcquired d = true) :
    (m.meetAll events).joystick.isAcquired d = true ∧
      (m.meetAll events).joystick.takings d = m.joystick.takings d := by
  induction events generalizing m with
  | nil => exact ⟨hd, rfl⟩
  | cons e events ih =>
    rw [List.forall_mem_cons] at he
    obtain ⟨ha, ht⟩ := takings_meet he.1.1 he.1.2 hd
    obtain ⟨ha', ht'⟩ := ih he.2 ha
    exact ⟨ha', ht'.trans ht⟩

end Manual

/-- A feeder that has a new joystick for itself, which nobody else acquires devices of or hands them
back to, whatever is asked of it, whichever devices are available when, and whichever of its calls
meet a fault.

- It holds exactly the devices that are acquired, which it lists in ascending order.
- The takings and handings back of a device in the journal take turns, and a taking comes first.
- Until all devices are handed back, a device that is acquired stays so. It is neither taken nor
  handed back in between, and a button of it that is not written to stays as it is.
- Once all devices are handed back, none is held or acquired. -/
theorem held_iff_acquired (devices : List UInt32) (events : List Happening)
    (he : ∀ e ∈ events, e.isOwn = true) :
    let m := (Manual.start devices).meetAll events
    (m.feeder.heldDevices.Pairwise (· < ·) ∧
      ∀ d, d ∈ m.feeder.heldDevices ↔ m.joystick.isAcquired d = true) ∧
    (∀ d (i : Nat) taken, (m.joystick.takings d)[i]? = some taken → (taken = true ↔ i % 2 = 0)) ∧
    (∀ later, (∀ e ∈ later, e.isOwn = true ∧ e ≠ .relinquishAll) →
      ∀ d, m.joystick.isAcquired d = true →
        let n := m.meetAll later
        n.joystick.isAcquired d = true ∧
        ∃ gained, n.joystick.journal.toList = m.joystick.journal.toList ++ gained ∧
          ⟨d, .acquire⟩ ∉ gained ∧ ⟨d, .relinquish⟩ ∉ gained ∧
          ∀ button, (∀ down, ⟨d, .button button down⟩ ∉ gained) →
            n.joystick.isPressed ⟨d, button⟩ = m.joystick.isPressed ⟨d, button⟩) ∧
    let r := m.meet .relinquishAll
    r.feeder.heldDevices = [] ∧ ∀ d, r.joystick.isAcquired d = false := by
  intro m
  have hh : m.feeder.Honest := Manual.honest_meetAll (Feeder.honest_ofAvailable devices) he
  have ha := ((Manual.start devices).operated_meetAll events).alternates
    (Joystick.alternates_ofAvailable devices)
  refine ⟨⟨m.feeder.heldDevices_ascending, fun d => ?_⟩, fun d => (ha d).1,
    fun later hl d hd => ?_, ?_, fun d => ?_⟩
  · rw [Feeder.mem_heldDevices, hh d]
  · obtain ⟨hn, ht⟩ := Manual.takings_meetAll hl hd
    obtain ⟨gained, hg⟩ := (m.operated_meetAll later).grown
    have hq : ⟨d, .acquire⟩ ∉ gained := fun hm => by
      have ht := hg.taken?_eq_none ht hm
      simp [Entry.taken?] at ht
    refine ⟨hn, gained, hg.journal, hq, fun hm => ?_, fun button hw => ?_⟩
    · have ht := hg.taken?_eq_none ht hm
      simp [Entry.taken?] at ht
    · exact hg.isPressed_eq hq hw
  · exact Feeder.relinquishAll_held _
  · exact hh.relinquishAll d

/-- Acquiring a device fails, then its button cannot be read once it is acquired, and another device
is not available any more once it is acquired. -/
theorem held_iff_acquired_faulty :
    let k : ButtonKey := ⟨2, 3⟩
    let events : List Happening := [.inject ["busy"] 0, .touch (.press ⟨1, 1⟩), .touch (.press k),
      .outside (.setAvailable 2 false), .inject ["busy"] 1, .touch (.toggle ⟨1, 1⟩)]
    let m := (Manual.start [1, 2]).meetAll events
    let later : List Happening :=
      [.inject ["busy"] 0, .touch (.release k), .touch (.pulse ⟨2, 4⟩ 50)]
    let n := m.meetAll later
    m.feeder.heldDevices = [1, 2] ∧ m.joystick.isAcquired 1 = true ∧
      n.joystick.isPressed k = m.joystick.isPressed k ∧ n.joystick.isPressed ⟨2, 4⟩ = true ∧
      (m.meet .relinquishAll).joystick.isAcquired 2 = false := by
  intro k events m later n
  have h := held_iff_acquired [1, 2] events (by decide +kernel)
  generalize hm : Manual.meetAll _ events = m' at h
  obtain rfl : m' = m := hm.symm
  obtain ⟨⟨-, hd⟩, -, hs, -, hr⟩ := h
  have hl : ∀ e ∈ later, e.isOwn = true ∧ e ≠ .relinquishAll := by
    simp [later, Happening.isOwn]
  have h2 : 2 ∈ m.feeder.heldDevices := by decide +kernel
  have hs := hs later hl 2 ((hd 2).mp h2)
  generalize hm : Manual.meetAll m later = n' at hs
  obtain rfl : n' = n := hm.symm
  obtain ⟨-, gained, hg, -, -, hp⟩ := hs
  have hn : n.joystick.journal.toList = m.joystick.journal.toList ++ [⟨2, .button 4 true⟩] := by
    decide +kernel
  obtain rfl := List.append_cancel_left (hg.symm.trans hn)
  have h1 : 1 ∈ m.feeder.heldDevices := by decide +kernel
  exact ⟨by decide +kernel, (hd 1).mp h1, hp 3 (by decide), by decide +kernel, hr 2⟩

end Dispatch

end ControlDeck
