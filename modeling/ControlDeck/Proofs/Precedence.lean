import ControlDeck.Proofs.Requests
import ControlDeck.Proofs.Spelling
import Mathlib.Data.List.Induction

/-!
# Which tokens of a command count

A command is read token by token, but only the last token of each group counts, and a descriptor is
checked number by number, but only the first check that fails is reported.

- **Last tokens** (`pick`, `last?`, `lastValue`, `lastMode`): the last token with one of some codes,
  and what it says. `foldl_button` and `foldl_encoder` say that reading the tokens one after the
  other comes to just these.
- **Checks** (`Check`, `buttonChecks`, `encoderChecks`): the numbers of a descriptor with their
  bounds, in order. `problem?_button` and `problem?_encoder` say that the problem of a descriptor is
  the first check that does not hold (`firstReport`).
- `last_tokens_count`: both for the two grammars, for any text.
-/

namespace ControlDeck.Command

/-! ## Last tokens -/

/-- The tokens whose code is one of some. -/
def pick (codes : List (List Char)) (ts : List Token) : List Token := ts.filter (·.code ∈ codes)

/-- The last of these tokens. -/
def last? (codes : List (List Char)) (ts : List Token) : Option Token := (pick codes ts).getLast?

/-- The number of this token, or another one where there is no such token. -/
def lastValue (codes : List (List Char)) (absent : UInt32) (ts : List Token) : UInt32 :=
  ((last? codes ts).map (·.value)).getD absent

/-- The mode that a code names. -/
def modeOfCode : List Char → Mode
  | ['P', 'B'] => .press
  | ['R', 'B'] => .release
  | ['T', 'B'] | ['T', 'A'] => .toggle
  | _ => .pulse

/-- The mode that the last of some tokens names; without any it is a pulse. -/
def lastMode (codes : List (List Char)) (ts : List Token) : Mode :=
  ((last? codes ts).map fun t => modeOfCode t.code).getD .pulse

/-- The codes that name a button and its mode. -/
def buttonCodes : List (List Char) := [['B'], ['P', 'B'], ['R', 'B'], ['T', 'B']]

/-- The codes that name the push button of an encoder and its mode. -/
def actionCodes : List (List Char) := [['A'], ['T', 'A']]

/-- The codes of the button grammar, those for one group of fields together. -/
def buttonGroups : List (List (List Char)) := [[['D']], buttonCodes, [['P']]]

/-- The codes of the encoder grammar, those for one group of fields together. -/
def encoderGroups : List (List (List Char)) :=
  [[['D']], [['L']], [['R']], [['F', 'L']], [['F', 'R']], actionCodes, [['P']]]

theorem last?_concat (codes : List (List Char)) (ts : List Token) (t : Token) :
    last? codes (ts ++ [t]) = if t.code ∈ codes then some t else last? codes ts := by
  unfold last? pick
  rw [List.filter_append]
  by_cases h : t.code ∈ codes <;> simp [h]

theorem lastValue_concat (codes : List (List Char)) (absent : UInt32) (ts : List Token)
    (t : Token) :
    lastValue codes absent (ts ++ [t]) =
      if t.code ∈ codes then t.value else lastValue codes absent ts := by
  unfold lastValue
  rw [last?_concat]
  split <;> rfl

theorem lastMode_concat (codes : List (List Char)) (ts : List Token) (t : Token) :
    lastMode codes (ts ++ [t]) =
      if t.code ∈ codes then modeOfCode t.code else lastMode codes ts := by
  unfold lastMode
  rw [last?_concat]
  split <;> rfl

/-- Reading tokens by the button grammar. -/
theorem foldl_button (ts : List Token) :
    ts.foldl (fun form t => (form.read? t).getD form) ({} : ButtonForm) =
      { device := lastValue [['D']] 0 ts
        button := lastValue buttonCodes 0 ts
        mode := lastMode buttonCodes ts
        duration := lastValue [['P']] defaultDuration ts } := by
  -- from the last token on: what it sets is not set again
  induction ts using List.reverseRecOn with
  | nil => rfl
  | append_singleton ts t ih =>
    obtain ⟨code, value⟩ := t
    rw [List.foldl_append, ih, List.foldl_cons, List.foldl_nil]
    unfold ButtonForm.read? ButtonField.ofCode?
    simp only [lastValue_concat, lastMode_concat]
    split
    case h_7 => simp_all [buttonCodes]
    all_goals rfl

/-- Reading tokens by the encoder grammar. -/
theorem foldl_encoder (ts : List Token) :
    ts.foldl (fun form t => (form.read? t).getD form) ({} : EncoderForm) =
      { device := lastValue [['D']] 0 ts
        left := lastValue [['L']] 0 ts
        right := lastValue [['R']] 0 ts
        fastLeft := lastValue [['F', 'L']] 0 ts
        fastRight := lastValue [['F', 'R']] 0 ts
        action := lastValue actionCodes 0 ts
        mode := lastMode actionCodes ts
        duration := lastValue [['P']] defaultDuration ts } := by
  induction ts using List.reverseRecOn with
  | nil => rfl
  | append_singleton ts t ih =>
    obtain ⟨code, value⟩ := t
    rw [List.foldl_append, ih, List.foldl_cons, List.foldl_nil]
    unfold EncoderForm.read? EncoderField.ofCode?
    simp only [lastValue_concat, lastMode_concat]
    split
    case h_9 => simp_all [actionCodes]
    all_goals rfl

/-- The same tokens of a group, in the same order, have the same last one. -/
theorem last_congr {codes : List (List Char)} {ts us : List Token}
    (h : pick codes ts = pick codes us) :
    (∀ absent, lastValue codes absent ts = lastValue codes absent us) ∧
      lastMode codes ts = lastMode codes us := by
  unfold lastValue lastMode last?
  rw [h]
  exact ⟨fun _ => rfl, rfl⟩

/-- What the button grammar makes of a text. -/
theorem decodeButton_eq (s : List Char) :
    (decodeButton s).value =
      ⟨lastValue [['D']] 0 (tokens s), lastValue [['P']] 250 (tokens s),
        .button ⟨lastValue buttonCodes 0 (tokens s), lastMode buttonCodes (tokens s)⟩⟩ := by
  rw [value_decodeButton, foldl_button]
  rfl

/-- What the encoder grammar makes of a text; a fast button that is absent or zero is the slow one
of its side. -/
theorem decodeEncoder_eq (s : List Char) :
    let ts := tokens s
    let left := lastValue [['L']] 0 ts
    let right := lastValue [['R']] 0 ts
    let fastLeft := lastValue [['F', 'L']] 0 ts
    let fastRight := lastValue [['F', 'R']] 0 ts
    (decodeEncoder s).value =
      ⟨lastValue [['D']] 0 ts, lastValue [['P']] 250 ts, .encoder
        { left, right
          fastLeft := if fastLeft = 0 then left else fastLeft
          fastRight := if fastRight = 0 then right else fastRight
          action := lastValue actionCodes 0 ts
          mode := lastMode actionCodes ts }⟩ := by
  intro ts left right fastLeft fastRight
  rw [value_decodeEncoder, foldl_encoder]
  rfl

/-- Only the order within each group of the button grammar counts, and no other token does. -/
theorem decodeButton_congr {s other : List Char}
    (h : ∀ codes ∈ buttonGroups, pick codes (tokens other) = pick codes (tokens s)) :
    (decodeButton other).value = (decodeButton s).value := by
  simp only [buttonGroups, List.forall_mem_cons] at h
  obtain ⟨hd, hb, hp, -⟩ := h
  rw [decodeButton_eq, decodeButton_eq, (last_congr hd).1, (last_congr hb).1, (last_congr hb).2,
    (last_congr hp).1]

/-- Only the order within each group of the encoder grammar counts, and no other token does. -/
theorem decodeEncoder_congr {s other : List Char}
    (h : ∀ codes ∈ encoderGroups, pick codes (tokens other) = pick codes (tokens s)) :
    (decodeEncoder other).value = (decodeEncoder s).value := by
  simp only [encoderGroups, List.forall_mem_cons] at h
  obtain ⟨hd, hl, hr, hfl, hfr, ha, hp, -⟩ := h
  simp only [decodeEncoder_eq, (last_congr hd).1, (last_congr hl).1, (last_congr hr).1,
    (last_congr hfl).1, (last_congr hfr).1, (last_congr ha).1, (last_congr ha).2, (last_congr hp).1]

/-! ## Checks -/

/-- A number of a command with its bounds, and what is reported where it is not within them. -/
structure Check where
  value : UInt32
  least : UInt32
  most : UInt32
  report : Problem

namespace Check

/-- Whether the number is within its bounds. -/
def Holds (c : Check) : Prop := c.least ≤ c.value ∧ c.value ≤ c.most

instance (c : Check) : Decidable c.Holds := inferInstanceAs (Decidable (_ ∧ _))

/-- A device is between one and the highest of its grammar. -/
def device (value most : UInt32) : Check := ⟨value, 1, most, .deviceOutOfRange value most⟩

/-- A button is at most `128`. One that is zero, where it must not be, is missing. -/
def button (role : Role) (least value : UInt32) : Check :=
  ⟨value, least, 128, if value = 0 then .missingButton role else .buttonOutOfRange role value⟩

/-- What a check reports, unless it holds. -/
def report? (c : Check) : Option Problem := if c.Holds then none else some c.report

end Check

/-- What the first check that does not hold reports. -/
def firstReport (checks : List Check) : Option Problem :=
  (checks.find? fun c => ¬ c.Holds).map (·.report)

/-- The checks of a button command, in order. -/
def buttonChecks (device : UInt32) (b : ButtonAction) : List Check :=
  [.device device 16, .button .button 1 b.button]

/-- The checks of an encoder command, in order. -/
def encoderChecks (device : UInt32) (e : EncoderAction) : List Check :=
  [.device device 8, .button .left 1 e.left, .button .right 1 e.right,
    .button .fastLeft 1 e.fastLeft, .button .fastRight 1 e.fastRight, .button .action 0 e.action]

theorem firstReport_cons (c : Check) (checks : List Check) :
    firstReport (c :: checks) = (c.report? <|> firstReport checks) := by
  unfold firstReport Check.report?
  by_cases h : c.Holds <;> simp [h]

theorem firstReport_singleton (c : Check) : firstReport [c] = c.report? := by
  rw [firstReport_cons]
  cases c.report? <;> rfl

/-- Nothing is reported where every check holds. -/
theorem firstReport_eq_none_iff {checks : List Check} :
    firstReport checks = none ↔ ∀ c ∈ checks, c.Holds := by
  simp [firstReport]

theorem checkDevice_eq (value most : UInt32) :
    checkDevice value most = (Check.device value most).report? := by
  have h : (value = 0 ∨ most < value) ↔ ¬ (Check.device value most).Holds := by
    rw [← not_iff_not, not_or, UInt32.not_lt, ← Ne, ← one_le_iff, not_not]
    rfl
  rw [Check.report?, checkDevice, ite_cond_congr (propext h), ite_not]
  rfl

/-- Of a button that is not below its least number only the highest is checked. -/
theorem checkOptional_eq {least value : UInt32} (h : least ≤ value) (role : Role) :
    checkOptional role value = (Check.button role least value).report? := by
  have hh : maxButton < value ↔ ¬ (Check.button role least value).Holds := by
    rw [← not_iff_not, UInt32.not_lt, not_not]
    exact (and_iff_right h).symm
  rw [Check.report?, checkOptional, ite_cond_congr (propext hh), ite_not]
  split
  · rfl
  · rename_i hn
    have hv : value ≠ 0 := by
      rintro rfl
      exact absurd (hh.mpr hn) (by decide)
    rw [Check.button, if_neg hv]

theorem checkRequired_eq (role : Role) (value : UInt32) :
    checkRequired role value = (Check.button role 1 value).report? := by
  unfold checkRequired
  split
  · rename_i h
    rw [h]
    cases role <;> rfl
  · rename_i h
    exact checkOptional_eq (one_le_iff.mpr h) role

/-- A fast button is zero only if the slow one that stands in for it is. -/
theorem resolved_eq_zero (slow fast : UInt32) :
    (if fast = 0 then slow else fast) = 0 → slow = 0 := by
  split
  · exact id
  · exact fun h => absurd h ‹_›

namespace Descriptor

/-- The problem of a button command is the first of its checks that does not hold. -/
theorem problem?_button (device duration : UInt32) (b : ButtonAction) :
    problem? ⟨device, duration, .button b⟩ = firstReport (buttonChecks device b) := by
  rw [buttonChecks, firstReport_cons, firstReport_singleton, ← checkDevice_eq, ← checkRequired_eq]
  rfl

/-- The problem of an encoder command is the first of its checks that does not hold. A fast button
is missing only if the slow one of its side is, and that is reported first. -/
theorem problem?_encoder (device duration : UInt32) {e : EncoderAction}
    (hl : e.fastLeft = 0 → e.left = 0) (hr : e.fastRight = 0 → e.right = 0) :
    problem? ⟨device, duration, .encoder e⟩ = firstReport (encoderChecks device e) := by
  have hd : problem? ⟨device, duration, .encoder e⟩ =
      ((Check.device device 8).report? <|> checkRequired .left e.left <|>
        checkRequired .right e.right <|> checkOptional .fastLeft e.fastLeft <|>
        checkOptional .fastRight e.fastRight <|> checkOptional .action e.action) := by
    rw [← checkDevice_eq]
    rfl
  rw [hd]
  rw [encoderChecks, firstReport_cons, firstReport_cons, firstReport_cons, firstReport_cons,
    firstReport_cons, firstReport_singleton]
  simp only [← checkRequired_eq]
  by_cases hle : e.left = 0
  · simp [checkRequired, hle]
  by_cases hri : e.right = 0
  · simp [checkRequired, hri]
  rw [checkOptional_eq (one_le_iff.mpr (mt hl hle)), checkOptional_eq (one_le_iff.mpr (mt hr hri)),
    checkOptional_eq UInt32.zero_le]
  simp only [checkRequired_eq]

end Descriptor

/-- Of the tokens of a text only the last of each group counts, for either grammar, and of the
checks only the first that fails.

- Two texts with the same tokens of each group, in the same order within the group, decode alike.
- A button command has the device and the pulse length of the last tokens `D` and `P`, and the
  button and mode of the last token among `B`, `PB`, `RB` and `TB`; without them these are 0, 250,
  and the pulse of button 0. An encoder command likewise has the device, the pulse length and the
  four turn buttons of the last tokens `D`, `P`, `L`, `R`, `FL` and `FR`, and the push button and
  mode of the last token among `A` and `TA`. A fast button that is absent or 0 is the slow one of
  its side.
- A command is valid if its numbers are within their bounds, and its problem is otherwise that of
  the first number that is not. -/
theorem last_tokens_count (s : List Char) :
    (∀ other, (∀ codes ∈ buttonGroups, pick codes (tokens other) = pick codes (tokens s)) →
      (decodeButton other).value = (decodeButton s).value) ∧
    (∀ other, (∀ codes ∈ encoderGroups, pick codes (tokens other) = pick codes (tokens s)) →
      (decodeEncoder other).value = (decodeEncoder s).value) ∧
    let ts := tokens s
    let value (code : List Char) := lastValue [code] 0 ts
    let duration := lastValue [['P']] 250 ts
    (let d := (decodeButton s).value
     let b : ButtonAction := ⟨lastValue buttonCodes 0 ts, lastMode buttonCodes ts⟩
     d = ⟨value ['D'], duration, .button b⟩ ∧
     (d.isValid = true ↔ (1 ≤ d.device ∧ d.device ≤ 16) ∧ 1 ≤ b.button ∧ b.button ≤ 128) ∧
     d.problem? = firstReport (buttonChecks d.device b)) ∧
    (let d := (decodeEncoder s).value
     let e : EncoderAction :=
      { left := value ['L'], right := value ['R']
        fastLeft := if value ['F', 'L'] = 0 then value ['L'] else value ['F', 'L']
        fastRight := if value ['F', 'R'] = 0 then value ['R'] else value ['F', 'R']
        action := lastValue actionCodes 0 ts, mode := lastMode actionCodes ts }
     d = ⟨value ['D'], duration, .encoder e⟩ ∧
     (d.isValid = true ↔ (1 ≤ d.device ∧ d.device ≤ 8) ∧
      (∀ n ∈ [e.left, e.right, e.fastLeft, e.fastRight], 1 ≤ n ∧ n ≤ 128) ∧ e.action ≤ 128) ∧
     d.problem? = firstReport (encoderChecks d.device e)) := by
  refine ⟨fun _ => decodeButton_congr, fun _ => decodeEncoder_congr, ?_⟩
  intro ts value duration
  refine ⟨?button, ?encoder⟩
  case button =>
    intro d b
    have hd : d = ⟨value ['D'], duration, .button b⟩ := decodeButton_eq s
    have hp : d.problem? = firstReport (buttonChecks d.device b) := by
      rw [hd]
      exact Descriptor.problem?_button ..
    refine ⟨hd, ?_, hp⟩
    rw [Descriptor.isValid, Option.isNone_iff_eq_none]
    exact Descriptor.ranges_button (congrArg Descriptor.control hd)
  case encoder =>
    intro d e
    have hd : d = ⟨value ['D'], duration, .encoder e⟩ := decodeEncoder_eq s
    have hp : d.problem? = firstReport (encoderChecks d.device e) := by
      rw [hd]
      exact Descriptor.problem?_encoder _ _ (resolved_eq_zero _ _) (resolved_eq_zero _ _)
    refine ⟨hd, ?_, hp⟩
    rw [Descriptor.isValid, Option.isNone_iff_eq_none, hp, firstReport_eq_none_iff]
    simp [encoderChecks, Check.Holds, Check.device, Check.button, and_assoc]

/-- Tokens of different groups change places, and others come in between. -/
theorem last_tokens_count_reordered :
    (decodeButton "D2 B9 D3 PB7 P90".toList).value = ⟨3, 90, .button ⟨7, .press⟩⟩ ∧
    (decodeButton "B9 P90 X1 PB7 D2 d5 D3".toList).value =
      (decodeButton "D2 B9 D3 PB7 P90".toList).value ∧
    (decodeEncoder "FR9 FR0 R5 TA2 D1 L129".toList).value =
      (decodeEncoder "D1 L129 R5 FR9 FR0 TA2".toList).value ∧
    (decodeEncoder "D1 L129 R5 FR9 FR0 TA2".toList).value.problem? =
      some (.buttonOutOfRange .left 129) := by
  obtain ⟨hc, -, ⟨hb, -⟩, -⟩ := last_tokens_count "D2 B9 D3 PB7 P90".toList
  obtain ⟨-, he, -, -, -, hp⟩ := last_tokens_count "D1 L129 R5 FR9 FR0 TA2".toList
  exact ⟨hb.trans (by decide +kernel), hc _ (by decide +kernel), he _ (by decide +kernel),
    hp.trans (by decide +kernel)⟩

end ControlDeck.Command
