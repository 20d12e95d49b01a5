import ControlDeck.Proofs.Feeding
import Mathlib.Data.List.Induction

/-!
# The journal tells all

Joysticks in use by several callers, each through a handle of its own. A handle is made with a new
joystick or as a clone of another handle, whose joystick it then shares.

- **Operations** (`Operation`, `Joystick.operate`): what a caller can do, what it is answered and
  the joystick after it. `Joystick.entry?` is the entry that an operation makes.
- **Tales** (`lastTold`): what the last entry tells that tells anything about a device, a button, an
  axis or a hat (`Entry.taken?`, `Entry.down?`, `Entry.value?`, `Entry.position?`).
- **Told** (`Joystick.Told`): all that a joystick shows is what its journal says, and only a device
  that was taken was fed. It holds of a fresh joystick (`told_ofAvailable`), and every operation
  keeps it (`Told.operate`).
- **Usages** (`Handles`, `Usage`): handles after any uses of them.
- `journal_tells`: all this after any usage.
-/

namespace ControlDeck.Device

/-! ## Operations -/

/-- What a caller does to a joystick. -/
inductive Operation
  | acquire (device : UInt32)
  | relinquish (device : UInt32)
  | setButton (k : ButtonKey) (down : Bool)
  | buttonState (k : ButtonKey)
  | setAxis (device : UInt32) (axis : Axis) (value : Int32)
  | setHat (device : UInt32) (hat : UInt8) (position : Hat)
  | setAvailable (device : UInt32) (on : Bool)

/-- What an operation answers: an error, or what it read, if anything. -/
abbrev Answer := Except DeviceError (Option Bool)

namespace Joystick

/-- A joystick after a change that may have failed. -/
def changed (j : Joystick) : Except DeviceError Joystick → Answer × Joystick
  | .ok next => (.ok none, next)
  | .error e => (.error e, j)

/-- What an operation answers, and the joystick after it. -/
def operate (j : Joystick) : Operation → Answer × Joystick
  | .acquire device => j.changed (j.acquire device).value
  | .relinquish device => (.ok none, (j.relinquish device).value)
  | .setButton k down => j.changed (j.setButton k down)
  | .buttonState k => ((j.buttonState k).map some, j)
  | .setAxis device axis value => j.changed (j.setAxis device axis value)
  | .setHat device hat position => j.changed (j.setHat device hat position)
  | .setAvailable device on => (.ok none, j.setAvailable device on)

/-- The entry that an operation makes: each write that succeeds makes one, and so does taking a
device that was not taken and handing one back that was. -/
def entry? (j : Joystick) (operation : Operation) : Option Entry :=
  if (j.operate operation).1.isOk then
    match operation with
    | .acquire device => if j.isAcquired device then none else some ⟨device, .acquire⟩
    | .relinquish device => if j.isAcquired device then some ⟨device, .relinquish⟩ else none
    | .setButton k down => some ⟨k.device, .button k.button down⟩
    | .setAxis device axis value => some ⟨device, .axis axis value⟩
    | .setHat device hat position => some ⟨device, .hat hat position⟩
    | .buttonState _ | .setAvailable .. => none
  else none

end Joystick

/-! ## Tales -/

namespace Entry

/-- Whether this entry takes a device or hands it back, if it does either. -/
def taken? (device : UInt32) (e : Entry) : Option Bool :=
  if e.device = device then
    match e.change with
    | .acquire => some true
    | .relinquish => some false
    | _ => none
  else none

/-- The state in which this entry leaves a button, if it touches it: taking a device puts all its
buttons up. -/
def down? (k : ButtonKey) (e : Entry) : Option Bool :=
  if e.device = k.device then
    match e.change with
    | .acquire => some false
    | .button button down => if button = k.button then some down else none
    | _ => none
  else none

/-- The value that this entry gives an axis, if it is about that axis. -/
def value? (device : UInt32) (axis : Axis) (e : Entry) : Option Int32 :=
  if e.device = device then
    match e.change with
    | .axis a value => if a = axis then some value else none
    | _ => none
  else none

/-- The position that this entry gives a hat, if it is about that hat. -/
def position? (device : UInt32) (hat : UInt8) (e : Entry) : Option Hat :=
  if e.device = device then
    match e.change with
    | .hat h position => if h = hat then some position else none
    | _ => none
  else none

/-- Whether this entry is a write. -/
def isWrite (e : Entry) : Bool :=
  match e.change with
  | .button .. | .axis .. | .hat .. => true
  | .acquire | .relinquish => false

end Entry

section

variable {α : Type} {tells : Entry → Option α} {es : List Entry}

/-- What the last entry tells that tells anything. -/
def lastTold (tells : Entry → Option α) (es : List Entry) : Option α :=
  (es.filterMap tells).getLast?

theorem lastTold_concat (tells : Entry → Option α) (es : List Entry) (e : Entry) :
    lastTold tells (es ++ [e]) = (tells e).or (lastTold tells es) := by
  unfold lastTold
  rw [List.filterMap_append]
  cases h : tells e <;> simp [h]

/-- What was told last was told by an entry after which nothing was told. -/
theorem exists_of_lastTold {a : α} (h : lastTold tells es = some a) :
    ∃ before e between, es = before ++ e :: between ∧ tells e = some a ∧
      ∀ x ∈ between, tells x = none := by
  induction es using List.reverseRecOn with
  | nil => cases h
  | append_singleton es e ih =>
    rw [lastTold_concat] at h
    cases he : tells e with
    | some b =>
      rw [he, Option.some_or] at h
      exact ⟨es, e, [], rfl, he.trans h, List.forall_mem_nil _⟩
    | none =>
      rw [he, Option.none_or] at h
      obtain ⟨before, x, between, rfl, hx, hb⟩ := ih h
      refine ⟨before, x, between ++ [e], by simp, hx, ?_⟩
      exact List.forall_mem_append.mpr ⟨hb, List.forall_mem_singleton.mpr he⟩

/-- A device that was last taken has been taken and not been handed back since. -/
theorem taken_of_lastTold {device : UInt32} (h : lastTold (·.taken? device) es = some true) :
    ∃ before between, es = before ++ ⟨device, .acquire⟩ :: between ∧
      ⟨device, .relinquish⟩ ∉ between := by
  obtain ⟨before, e, between, rfl, he, hb⟩ := exists_of_lastTold h
  obtain ⟨d, change⟩ := e
  have hd : d = device ∧ change = .acquire := by
    unfold Entry.taken? at he
    split at he
    · cases change <;> simp_all
    · cases he
  obtain ⟨rfl, rfl⟩ := hd
  refine ⟨before, between, rfl, fun hm => ?_⟩
  have hn := hb _ hm
  simp [Entry.taken?] at hn

end

/-! ## What an operation does -/

namespace Joystick

variable {j next : Joystick} {e : Entry}

/-- A joystick shows the same as before, and nothing was entered. -/
structure Stays (j next : Joystick) : Prop where
  journal : next.journal = j.journal
  acquired : next.isAcquired = j.isAcquired
  panel : next.panel = j.panel

/-- An entry was made, which says all that has changed; a write was for a device that is taken. -/
structure Enters (j next : Joystick) (e : Entry) : Prop where
  journal : next.journal = j.journal.push e
  acquired : ∀ d, next.isAcquired d = (e.taken? d).getD (j.isAcquired d)
  pressed : ∀ k, next.isPressed k = (e.down? k).getD (j.isPressed k)
  axis : ∀ d a, next.axis? d a = (e.value? d a).or (j.axis? d a)
  hat : ∀ d h, next.hat? d h = (e.position? d h).or (j.hat? d h)
  write : e.isWrite = true → j.isAcquired e.device = true

/-- What is left of an operation: its entry, if it makes one. -/
def Follows (j next : Joystick) : Option Entry → Prop
  | some e => Enters j next e
  | none => Stays j next

theorem Stays.refl (j : Joystick) : Stays j j := ⟨rfl, rfl, rfl⟩

theorem axis?_feed (j : Joystick) (device : UInt32) (p : Panel) (change : Change) (d : UInt32)
    (a : Axis) :
    (j.feed device p change).axis? d a = if d = device then p.axes[a]? else j.axis? d a := by
  unfold axis?
  rw [panel_feed]
  split <;> rfl

theorem hat?_feed (j : Joystick) (device : UInt32) (p : Panel) (change : Change) (d : UInt32)
    (h : UInt8) :
    (j.feed device p change).hat? d h = if d = device then p.hats[h]? else j.hat? d h := by
  unfold hat?
  rw [panel_feed]
  split <;> rfl

/-- New contents of a device show as the entry tells if they do so for the device of the entry. -/
theorem shows_feed (j : Joystick) (e : Entry) {p : Panel}
    (hb : ∀ b, p.buttons.isDown b =
      (e.down? ⟨e.device, b⟩).getD (j.isPressed ⟨e.device, b⟩))
    (ha : ∀ a, p.axes[a]? = (e.value? e.device a).or (j.axis? e.device a))
    (hh : ∀ h, p.hats[h]? = (e.position? e.device h).or (j.hat? e.device h)) :
    let next := j.feed e.device p e.change
    (∀ k, next.isPressed k = (e.down? k).getD (j.isPressed k)) ∧
      (∀ d a, next.axis? d a = (e.value? d a).or (j.axis? d a)) ∧
      ∀ d h, next.hat? d h = (e.position? d h).or (j.hat? d h) := by
  refine ⟨fun k => ?_, fun d a => ?_, fun d h => ?_⟩
  · rw [isPressed_feed]
    split
    · rename_i hk
      rw [hb, ← hk]
    · rename_i hk
      rw [Entry.down?, if_neg (Ne.symm hk), Option.getD_none]
  · rw [axis?_feed]
    split
    · rename_i hd
      rw [ha, ← hd]
    · rename_i hd
      rw [Entry.value?, if_neg (Ne.symm hd), Option.none_or]
  · rw [hat?_feed]
    split
    · rename_i hd
      rw [hh, ← hd]
    · rename_i hd
      rw [Entry.position?, if_neg (Ne.symm hd), Option.none_or]

/-- Taking a device. -/
theorem enters_acquire (j : Joystick) (device : UInt32) :
    Enters j
      { j.feed device { j.panel device with buttons := {} } .acquire with
        acquired := j.acquired.insert device }
      ⟨device, .acquire⟩ := by
  obtain ⟨hp, ha, hh⟩ := shows_feed j ⟨device, .acquire⟩
    (p := { j.panel device with buttons := {} })
    (fun b => by simpa [Entry.down?] using Bank.isDown_empty b)
    (fun a => by simp [Entry.value?, axis?]) (fun h => by simp [Entry.position?, hat?])
  refine ⟨rfl, fun d => ?_, hp, ha, hh, nofun⟩
  by_cases hd : device = d <;> simp [isAcquired, Entry.taken?, hd]

/-- Taking a device fails, or leaves one alone that is already taken, or makes an entry. -/
theorem acquire_cases (j : Joystick) (device : UInt32) :
    (∃ e, (j.acquire device).value = .error e) ∨
      j.isAcquired device = true ∧ (j.acquire device).value = .ok j ∨
      j.isAcquired device = false ∧
        ∃ next, (j.acquire device).value = .ok next ∧ Enters j next ⟨device, .acquire⟩ := by
  unfold acquire
  cases j.available.contains device with
  | false => exact .inl ⟨_, rfl⟩
  | true =>
    cases ha : j.isAcquired device with
    | true => exact .inr (.inl ⟨rfl, rfl⟩)
    | false => exact .inr (.inr ⟨rfl, _, rfl, enters_acquire j device⟩)

/-- Handing a device back. -/
theorem enters_relinquish (j : Joystick) (device : UInt32) :
    Enters j
      { j with
        acquired := j.acquired.erase device
        journal := j.journal.push ⟨device, .relinquish⟩ }
      ⟨device, .relinquish⟩ where
  journal := rfl
  acquired d := by
    by_cases hd : device = d <;> simp [isAcquired, Entry.taken?, hd]
  pressed k := by simp [Entry.down?]; rfl
  axis d a := by simp [Entry.value?]; rfl
  hat d h := by simp [Entry.position?]; rfl
  write := nofun

/-- Writing to a device. -/
theorem enters_write (j : Joystick) {e : Entry} {p : Panel} (hw : e.isWrite = true)
    (hd : j.isAcquired e.device = true)
    (hb : ∀ b, p.buttons.isDown b =
      (e.down? ⟨e.device, b⟩).getD (j.isPressed ⟨e.device, b⟩))
    (ha : ∀ a, p.axes[a]? = (e.value? e.device a).or (j.axis? e.device a))
    (hh : ∀ h, p.hats[h]? = (e.position? e.device h).or (j.hat? e.device h)) :
    Enters j (j.feed e.device p e.change) e := by
  obtain ⟨hp, ha, hh⟩ := shows_feed j e hb ha hh
  refine ⟨rfl, fun d => ?_, hp, ha, hh, fun _ => hd⟩
  have ht : e.taken? d = none := by
    obtain ⟨device, change⟩ := e
    cases change <;> simp_all [Entry.isWrite, Entry.taken?]
  rw [ht]
  rfl

theorem enters_setButton {k : ButtonKey} {down : Bool} (h : j.setButton k down = .ok next) :
    Enters j next ⟨k.device, .button k.button down⟩ := by
  obtain ⟨hd, hb, rfl⟩ := setButton_eq_ok_iff.mp h
  refine enters_write j (e := ⟨k.device, .button k.button down⟩) rfl hd (fun b => ?_) (fun a => ?_)
    (fun h => ?_)
  · rw [Bank.isDown_set _ hb]
    by_cases hk : b = k.button
    · simp [Entry.down?, hk]
    · simp only [Entry.down?, if_neg hk, if_neg (Ne.symm hk), ↓reduceIte, Option.getD_none]
      rfl
  · simp [Entry.value?, axis?]
  · simp [Entry.position?, hat?]

theorem enters_setAxis {device : UInt32} {a : Axis} {value : Int32}
    (h : j.setAxis device a value = .ok next) : Enters j next ⟨device, .axis a value⟩ := by
  unfold setAxis requireAcquired at h
  cases hd : j.isAcquired device with
  | false => simp [hd, bind, Except.bind] at h
  | true =>
    simp only [hd, ↓reduceIte, bind, Except.bind, pure, Except.pure, Except.ok.injEq] at h
    subst h
    refine enters_write j (e := ⟨device, .axis a value⟩) rfl hd (fun b => ?_) (fun o => ?_)
      (fun h => ?_)
    · simp [Entry.down?, isPressed]
    · by_cases ho : a = o <;> simp [Entry.value?, axis?, Std.TreeMap.getElem?_insert, ho]
    · simp [Entry.position?, hat?]

theorem enters_setHat {device : UInt32} {hat : UInt8} {position : Hat}
    (h : j.setHat device hat position = .ok next) :
    Enters j next ⟨device, .hat hat position⟩ := by
  unfold setHat requireAcquired at h
  cases hd : j.isAcquired device with
  | false => simp [hd, bind, Except.bind] at h
  | true =>
    simp only [hd, ↓reduceIte, bind, Except.bind, pure, Except.pure, Except.ok.injEq] at h
    subst h
    refine enters_write j (e := ⟨device, .hat hat position⟩) rfl hd (fun b => ?_) (fun a => ?_)
      (fun o => ?_)
    · simp [Entry.down?, isPressed]
    · simp [Entry.value?, axis?]
    · by_cases ho : hat = o <;> simp [Entry.position?, hat?, Std.TreeMap.getElem?_insert, ho]

/-- A write makes its entry if it succeeds. -/
theorem follows_changed {outcome : Except DeviceError Joystick}
    (h : ∀ next, outcome = .ok next → Enters j next e) :
    Follows j (j.changed outcome).2 (if (j.changed outcome).1.isOk then some e else none) := by
  cases outcome with
  | ok next => exact h next rfl
  | error error => exact Stays.refl j

/-- What an operation does is to make its entry, or else nothing that shows. -/
theorem follows_operate (j : Joystick) (operation : Operation) :
    Follows j (j.operate operation).2 (j.entry? operation) := by
  unfold entry? operate
  cases operation with
  | acquire device =>
    obtain ⟨e, h⟩ | ⟨ha, h⟩ | ⟨ha, next, h, hn⟩ := j.acquire_cases device
    · simp only [h]
      exact Stays.refl j
    · simp only [h, ha]
      exact Stays.refl j
    · simp only [h, ha]
      exact hn
  | relinquish device =>
    unfold relinquish
    cases ha : j.isAcquired device with
    | true =>
      simp only [ha]
      exact enters_relinquish j device
    | false =>
      simp only [ha]
      exact Stays.refl j
  | setButton k down => exact follows_changed fun _ => enters_setButton
  | buttonState k =>
    dsimp only
    rw [ite_self]
    exact Stays.refl j
  | setAxis device axis value => exact follows_changed fun _ => enters_setAxis
  | setHat device hat position => exact follows_changed fun _ => enters_setHat
  | setAvailable device on => exact ⟨rfl, rfl, rfl⟩

/-- An operation that answers an error has changed nothing. -/
theorem operate_of_error {operation : Operation} {error : DeviceError}
    (h : (j.operate operation).1 = .error error) : (j.operate operation).2 = j := by
  have hc : ∀ outcome, (j.changed outcome).1 = .error error → (j.changed outcome).2 = j := by
    rintro (e | next) hn
    · rfl
    · cases hn
  cases operation with
  | acquire | setButton | setAxis | setHat => exact hc _ h
  | buttonState => rfl
  | relinquish | setAvailable => cases h

/-! ## Joysticks that their journal tells -/

/-- All that a joystick shows is what its journal tells, and only a device that was taken was
written to. -/
structure Told (j : Joystick) : Prop where
  acquired : ∀ d, j.isAcquired d = true ↔ lastTold (·.taken? d) j.journal.toList = some true
  pressed : ∀ k, j.isPressed k = true ↔ lastTold (·.down? k) j.journal.toList = some true
  axis : ∀ d a, j.axis? d a = lastTold (·.value? d a) j.journal.toList
  hat : ∀ d h, j.hat? d h = lastTold (·.position? d h) j.journal.toList
  write : ∀ left e right, j.journal.toList = left ++ e :: right → e.isWrite = true →
    lastTold (·.taken? e.device) left = some true

theorem told_ofAvailable (devices : List UInt32) : Told (ofAvailable devices) where
  acquired d := by simp [ofAvailable, isAcquired, lastTold]
  pressed k := iff_of_false (Bool.eq_false_iff.mp (Bank.isDown_empty k.button)) nofun
  axis d a := by simp [ofAvailable, axis?, panel, lastTold]
  hat d h := by simp [ofAvailable, hat?, panel, lastTold]
  write left e right h := by simp [ofAvailable] at h

theorem Told.stays (h : Told j) (hs : Stays j next) : Told next := by
  obtain ⟨hj, ha, hp⟩ := hs
  refine ⟨?_, ?_, ?_, ?_, ?_⟩
  · rw [hj, ha]
    exact h.acquired
  · unfold isPressed
    rw [hj, hp]
    exact h.pressed
  · unfold axis?
    rw [hj, hp]
    exact h.axis
  · unfold hat?
    rw [hj, hp]
    exact h.hat
  · rw [hj]
    exact h.write

theorem Told.enters (h : Told j) (he : Enters j next e) : Told next := by
  have hj : next.journal.toList = j.journal.toList ++ [e] := by rw [he.journal, Array.toList_push]
  refine ⟨fun d => ?_, fun k => ?_, fun d a => ?_, fun d h => ?_, fun left x right hx hw => ?_⟩
  · rw [he.acquired, hj, lastTold_concat]
    cases e.taken? d with
    | none => exact h.acquired d
    | some taken => simp
  · rw [he.pressed, hj, lastTold_concat]
    cases e.down? k with
    | none => exact h.pressed k
    | some down => simp
  · rw [he.axis, hj, lastTold_concat, h.axis]
  · rw [he.hat, hj, lastTold_concat, Told.hat ‹_›]
  · rw [hj] at hx
    rcases List.eq_nil_or_concat right with rfl | ⟨init, last, rfl⟩
    · obtain ⟨rfl, he'⟩ := List.append_inj' hx rfl
      obtain rfl := List.singleton_inj.mp he'
      exact (h.acquired _).mp (he.write hw)
    · rw [List.concat_eq_append, ← List.cons_append, ← List.append_assoc] at hx
      exact h.write left x init (List.append_inj' hx rfl).1 hw

theorem Told.operate (h : Told j) (operation : Operation) : Told (j.operate operation).2 := by
  have hf := j.follows_operate operation
  cases he : j.entry? operation with
  | none =>
    rw [he] at hf
    exact h.stays hf
  | some e =>
    rw [he] at hf
    exact h.enters hf

/-- The journal grows by the entry of the operation, if it makes one. -/
theorem journal_operate (j : Joystick) (operation : Operation) :
    (j.operate operation).2.journal.toList =
      j.journal.toList ++ (j.entry? operation).toList := by
  have hf := j.follows_operate operation
  cases he : j.entry? operation with
  | none =>
    rw [he] at hf
    rw [hf.journal, Option.toList_none, List.append_nil]
  | some e =>
    rw [he] at hf
    rw [hf.journal, Array.toList_push, Option.toList_some]

end Joystick

/-! ## Usages -/

/-- Joysticks, and for each handle the position of its joystick. -/
structure Handles where
  joysticks : Array Joystick := #[]
  owners : Array Nat := #[]

/-- What is done with handles: one is made with a new joystick or as a clone, or its joystick is
operated. -/
inductive Use
  | create (devices : List UInt32)
  | clone (handle : Nat)
  | operate (handle : Nat) (operation : Operation)

namespace Handles

/-- The position of the joystick of a handle. -/
def owner (w : Handles) (handle : Nat) : Nat := w.owners.getD handle 0

/-- The joystick at a position. -/
def joystickAt (w : Handles) (i : Nat) : Joystick := w.joysticks.getD i (.ofAvailable [])

/-- The joystick of a handle. -/
def joystick (w : Handles) (handle : Nat) : Joystick := w.joystickAt (w.owner handle)

/-- Only a handle that there is can be used. -/
def Allows (w : Handles) : Use → Prop
  | .create _ => True
  | .clone handle | .operate handle _ => handle < w.owners.size

instance (w : Handles) (use : Use) : Decidable (w.Allows use) := by
  cases use <;> unfold Allows <;> infer_instance

/-- What a use answers, and the handles after it. -/
def apply (w : Handles) : Use → Answer × Handles
  | .create devices =>
    (.ok none,
      { joysticks := w.joysticks.push (.ofAvailable devices)
        owners := w.owners.push w.joysticks.size })
  | .clone handle => (.ok none, { w with owners := w.owners.push (w.owner handle) })
  | .operate handle operation =>
    let (answer, joystick) := (w.joystick handle).operate operation
    (answer, { w with joysticks := w.joysticks.setIfInBounds (w.owner handle) joystick })

/-- The handles after some uses. -/
def follow (w : Handles) : List Use → Handles
  | [] => w
  | use :: rest => (w.apply use).2.follow rest

/-- Whether all of some uses are possible, one after the other. -/
def canFollow (w : Handles) : List Use → Bool
  | [] => true
  | use :: rest => decide (w.Allows use) && (w.apply use).2.canFollow rest

end Handles

/-- Handles after any uses of them. -/
inductive Usage : Handles → Prop
  | nil : Usage {}
  | snoc {w : Handles} {use : Use} : Usage w → w.Allows use → Usage (w.apply use).2

theorem Usage.follow {w : Handles} {uses : List Use} (h : Usage w)
    (hc : w.canFollow uses = true) : Usage (w.follow uses) := by
  induction uses generalizing w with
  | nil => exact h
  | cons use rest ih =>
    simp only [Handles.canFollow, Bool.and_eq_true, decide_eq_true_eq] at hc
    exact ih (h.snoc hc.1) hc.2

namespace Handles

variable {w : Handles} {use : Use}

/-- Every handle has its joystick, and every joystick is told by its journal. -/
structure Kept (w : Handles) : Prop where
  owner_lt : ∀ handle < w.owners.size, w.owner handle < w.joysticks.size
  told : ∀ i, (w.joystickAt i).Told

theorem joystickAt_create (w : Handles) (devices : List UInt32) (i : Nat) :
    (w.apply (.create devices)).2.joystickAt i =
      if i = w.joysticks.size then .ofAvailable devices else w.joystickAt i := by
  simp only [joystickAt, apply, Array.getD_eq_getD_getElem?, Array.getElem?_push]
  split <;> rfl

theorem joystickAt_operate (w : Handles) (handle : Nat) (operation : Operation) (i : Nat) :
    (w.apply (.operate handle operation)).2.joystickAt i =
      if i = w.owner handle ∧ w.owner handle < w.joysticks.size then
        ((w.joystick handle).operate operation).2
      else w.joystickAt i := by
  simp only [joystickAt, apply, Array.getD_eq_getD_getElem?, Array.getElem?_setIfInBounds]
  by_cases hi : i = w.owner handle
  · subst hi
    by_cases hs : w.owner handle < w.joysticks.size <;> simp [hs]
  · simp [hi, Ne.symm hi]

/-- A handle keeps its joystick. -/
theorem owner_apply {handle : Nat} (h : handle < w.owners.size) (use : Use) :
    (w.apply use).2.owner handle = w.owner handle := by
  cases use with
  | create | clone =>
    simp [owner, apply, Array.getD_eq_getD_getElem?, Array.getElem?_push, Nat.ne_of_lt h]
  | operate => rfl

theorem owner_clone (w : Handles) (handle : Nat) :
    (w.apply (.clone handle)).2.owner w.owners.size = w.owner handle := by
  simp [owner, apply, Array.getD_eq_getD_getElem?]

theorem size_apply (w : Handles) (use : Use) :
    w.joysticks.size ≤ (w.apply use).2.joysticks.size := by
  cases use <;> simp [apply]

theorem kept_empty : Kept {} where
  owner_lt _ h := absurd h (Nat.not_lt_zero _)
  told _ := Joystick.told_ofAvailable []

theorem Kept.apply (h : w.Kept) (ha : w.Allows use) : (w.apply use).2.Kept where
  owner_lt handle hh := by
    by_cases hs : handle < w.owners.size
    · rw [owner_apply hs]
      exact Nat.lt_of_lt_of_le (h.owner_lt handle hs) (w.size_apply use)
    · have hle : (w.apply use).2.owners.size ≤ w.owners.size + 1 := by
        cases use <;> simp [Handles.apply]
      have hn : handle = w.owners.size := by omega
      subst hn
      cases use with
      | create devices => simp [Handles.apply, owner, Array.getD_eq_getD_getElem?]
      | clone other =>
        rw [owner_clone]
        exact h.owner_lt other ha
      | operate => exact absurd hh hs
  told i := by
    cases use with
    | create devices =>
      rw [joystickAt_create]
      split
      · exact Joystick.told_ofAvailable devices
      · exact h.told i
    | clone handle => exact h.told i
    | operate handle operation =>
      rw [joystickAt_operate]
      split
      · exact (h.told _).operate operation
      · exact h.told i

theorem apply_of_error {handle : Nat} {operation : Operation} {error : DeviceError}
    (h : (w.apply (.operate handle operation)).1 = .error error) :
    (w.apply (.operate handle operation)).2 = w := by
  have hj : w.joysticks.setIfInBounds (w.owner handle) (w.joystick handle) = w.joysticks := by
    apply Array.ext_getElem?
    intro i
    rw [Array.getElem?_setIfInBounds]
    split
    · rename_i hi
      subst hi
      split
      · rename_i hs
        simp [joystick, joystickAt, Array.getD_eq_getD_getElem?, hs]
      · rename_i hs
        rw [Array.getElem?_eq_none (Nat.not_lt.mp hs)]
    · rfl
  simp only [apply, Joystick.operate_of_error h, hj]

end Handles

theorem Usage.kept {w : Handles} (h : Usage w) : w.Kept := by
  induction h with
  | nil => exact Handles.kept_empty
  | snoc _ ha ih => exact ih.apply ha

/-- After any usage, whoever made it through whichever clones, a joystick is what its journal tells.

- An operation adds to the journal of its joystick the entry that it makes, or nothing. It leaves
  every other joystick alone, and if it answers an error it leaves everything as it was. A handle
  keeps its joystick, which only an operation changes, and a clone has the joystick of the handle it
  is made from.
- A device is acquired if it was last taken, and not handed back; a button is down if it was last
  written so, and its device not taken anew since; an axis and a hat are as last written. No button
  is ever down that is not one of the `128`.
- Every write is entered behind the taking of its device, with no handing back in between. -/
theorem journal_tells {w : Handles} (h : Usage w) :
    (∀ handle < w.owners.size, ∀ operation,
      let use := Use.operate handle operation
      let next := (w.apply use).2
      let j := w.joystick handle
      (next.joystick handle).journal.toList =
        j.journal.toList ++ (j.entry? operation).toList ∧
      (∀ other, w.owner other ≠ w.owner handle → next.joystick other = w.joystick other) ∧
      ∀ error, (w.apply use).1 = .error error → next = w) ∧
    (∀ handle < w.owners.size,
      (∀ use, (w.apply use).2.owner handle = w.owner handle) ∧
      (∀ devices, (w.apply (.create devices)).2.joystick handle = w.joystick handle) ∧
      ∀ other, (w.apply (.clone other)).2.joystick handle = w.joystick handle ∧
        (w.apply (.clone handle)).2.joystick w.owners.size = w.joystick handle) ∧
    ∀ handle,
      let j := w.joystick handle
      let entries := j.journal.toList
      (∀ d, j.isAcquired d = true ↔ lastTold (·.taken? d) entries = some true) ∧
      (∀ k, (j.isPressed k = true ↔ lastTold (·.down? k) entries = some true) ∧
        (j.isPressed k = true → 1 ≤ k.button ∧ k.button ≤ 128)) ∧
      (∀ d a, j.axis? d a = lastTold (·.value? d a) entries) ∧
      (∀ d hat, j.hat? d hat = lastTold (·.position? d hat) entries) ∧
      ∀ left e right, entries = left ++ e :: right → e.isWrite = true →
        ∃ before between, left = before ++ ⟨e.device, .acquire⟩ :: between ∧
          ⟨e.device, .relinquish⟩ ∉ between := by
  have hk := h.kept
  refine ⟨fun handle hh operation => ⟨?_, fun other ho => ?_, fun error => Handles.apply_of_error⟩,
    fun handle hh => ⟨Handles.owner_apply hh, fun devices => ?_, fun other => ⟨?_, ?_⟩⟩,
    fun handle => ?_⟩
  · rw [← Joystick.journal_operate, Handles.joystick, Handles.owner_apply hh,
      Handles.joystickAt_operate, if_pos ⟨rfl, hk.owner_lt handle hh⟩]
  · have hn := Handles.joystickAt_operate w handle operation (w.owner other)
    rw [if_neg fun hi => ho hi.1] at hn
    exact hn
  · rw [Handles.joystick, Handles.owner_apply hh, Handles.joystickAt_create,
      if_neg (Nat.ne_of_lt (hk.owner_lt handle hh))]
    rfl
  · exact congrArg w.joystickAt (Handles.owner_apply hh (.clone other))
  · exact congrArg w.joystickAt (w.owner_clone handle)
  · have ht := hk.told (w.owner handle)
    refine ⟨ht.acquired, fun k => ⟨ht.pressed k, fun hp => ?_⟩, ht.axis, ht.hat,
      fun left e right he hw => taken_of_lastTold (ht.write left e right he hw)⟩
    have hb := Bank.hasButton_iff.mp (Joystick.hasButton_of_isPressed hp)
    simpa [UInt32.le_iff_toNat_le] using hb

/-- A device is fed through a handle and its clone, and taken anew in between. -/
theorem journal_tells_clone :
    let uses : List Use := [.create [1], .clone 0, .operate 0 (.acquire 1),
      .operate 1 (.setButton ⟨1, 3⟩ true), .operate 0 (.setAxis 1 .x 7), .operate 1 (.relinquish 1),
      .operate 0 (.setButton ⟨1, 3⟩ true), .operate 0 (.acquire 1),
      .operate 1 (.setButton ⟨1, 128⟩ true)]
    let w := ({} : Handles).follow uses
    (w.joystick 0).isPressed ⟨1, 128⟩ = true ∧ ¬ (w.joystick 1).isPressed ⟨1, 3⟩ = true ∧
    (w.joystick 1).axis? 1 .x = some 7 ∧ (w.joystick 0).journal.size = 6 ∧
    ((w.apply (.operate 1 (.relinquish 1))).2.joystick 1).journal.toList =
      (w.joystick 1).journal.toList ++ [⟨1, .relinquish⟩] ∧
    (w.apply (.operate 1 (.setButton ⟨1, 129⟩ true))).2 = w ∧
    ∃ before between, (w.joystick 0).journal.toList.take 5 =
      before ++ ⟨1, .acquire⟩ :: between ∧ ⟨1, .relinquish⟩ ∉ between := by
  intro uses w
  have hc : ({} : Handles).canFollow uses = true := by decide +kernel
  obtain ⟨ho, -, hr⟩ := journal_tells (Usage.nil.follow hc)
  obtain ⟨hb, -, -⟩ := ho 1 (by decide +kernel) (.relinquish 1)
  obtain ⟨-, -, he⟩ := ho 1 (by decide +kernel) (.setButton ⟨1, 129⟩ true)
  obtain ⟨-, hp, -, -, hw⟩ := hr 0
  obtain ⟨-, hn, ha, -⟩ := hr 1
  refine ⟨(hp _).1.mpr (by decide +kernel), mt (hn _).1.mp (by decide +kernel),
    (ha 1 .x).trans (by decide +kernel), by decide +kernel, hb.trans (by decide +kernel),
    he (.buttonOutOfRange 1 129) (by decide +kernel), ?_⟩
  exact hw _ ⟨1, .button 128 true⟩ [] (by decide +kernel) rfl

end ControlDeck.Device
