import ControlDeck.Button

/-!
# Button banks

The buttons of one device, numbered from one to `maxButton`.

* `Bank.isDown`, `Bank.set`: reading and writing one button.
* `isDown_set`: a write changes the button it names, and no other one.
-/

namespace ControlDeck.Device

/-- Whether a device has a button of this number. -/
def hasButton (button : UInt32) : Bool := 1 ≤ button && button ≤ maxButton

/-- The state of all buttons of one device; bit `n` is button `n + 1`. -/
structure Bank where
  bits : BitVec 128 := 0
  deriving DecidableEq, Repr

namespace Bank

/-- Whether a button is down; a button that does not exist never is. -/
def isDown (bank : Bank) (button : UInt32) : Bool :=
  hasButton button && bank.bits.getLsbD (button.toNat - 1)

/-- Writes one button. -/
def set (bank : Bank) (button : UInt32) (down : Bool) : Bank :=
  let bit := BitVec.twoPow 128 (button.toNat - 1)
  if down then ⟨bank.bits ||| bit⟩ else ⟨bank.bits &&& ~~~bit⟩

theorem hasButton_iff {button : UInt32} :
    hasButton button = true ↔ 1 ≤ button.toNat ∧ button.toNat ≤ 128 := by
  simp [hasButton, maxButton, UInt32.le_iff_toNat_le]

@[simp] theorem isDown_empty (button : UInt32) : ({} : Bank).isDown button = false := by
  simp [isDown]

/-- After a write the button that it names is as written, and every other one as before. -/
theorem isDown_set (bank : Bank) {button : UInt32} (h : hasButton button = true) (down : Bool)
    (other : UInt32) :
    (bank.set button down).isDown other = if other = button then down else bank.isDown other := by
  rw [hasButton_iff] at h
  by_cases ho : hasButton other = true
  · have ho' := hasButton_iff.mp ho
    have hlt : other.toNat - 1 < 128 := by omega
    have heq : other.toNat - 1 = button.toNat - 1 ↔ other = button := by
      rw [← UInt32.toNat_inj]; omega
    have hself : other = button → button.toNat - 1 < 128 := by rintro rfl; exact hlt
    cases down <;> simp only [isDown, set, ho, Bool.true_and, Bool.false_eq_true, ↓reduceIte,
      BitVec.getLsbD_and, BitVec.getLsbD_or, BitVec.getLsbD_not, BitVec.getLsbD_twoPow, hlt,
      decide_true]
    · by_cases e : other = button
      · simp [e, hself e]
      · simp [e, Ne.symm (mt heq.mp e)]
    · by_cases e : other = button
      · simp [e, hself e]
      · simp [e, Ne.symm (mt heq.mp e)]
  · have e : other ≠ button := by
      rintro rfl; exact ho (hasButton_iff.mpr h)
    simp [isDown, ho, e]

end Bank

end ControlDeck.Device
