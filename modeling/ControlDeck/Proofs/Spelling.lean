import ControlDeck.Proofs.Caching
import ControlDeck.Proofs.Scanning

/-!
# Commands as they are written

A command is written as tokens in any order, in letters of either case, with zeros in front of the
numbers and with white space around and inside the tokens; it decodes to what its tokens say.

- **Spellings** (`Numeral`, `Token.Spelled`, `Spelled`): the texts of a number, of a token and of a
  list of tokens.
- **Scanning** (`Spelled.tokens_uppercase`): the tokens are found again in the upper case of the
  text, and its letters are those of the codes (`Spelled.mem_uppercase`).
- **Order** (`foldl_read_perm`): tokens for different fields may change places.
- `commands_decode`: the two documented forms of a command.
-/

namespace ControlDeck

open Text

namespace Text

theorem uppercase_of_ascii {s : List Char} (h : ∀ c ∈ s, c.toNat < 128) :
    uppercase s = s.map Char.toUpper := by
  induction s with
  | nil => rfl
  | cons c s ih =>
    obtain ⟨hc, hs⟩ := List.forall_mem_cons.mp h
    rw [uppercase_cons, upper_of_ascii hc, ih hs]
    rfl

/-- Only ASCII letters are turned into ASCII letters. -/
theorem lt_of_isAlpha_toUpper {c : Char} (h : c.toUpper.isAlpha = true) : c.toNat < 128 := by
  have hu := lt_of_isAlpha h
  unfold Char.toUpper at hu
  split at hu
  · rename_i hc
    have hz : c.val.toNat ≤ 'z'.val.toNat := UInt32.le_iff_toNat_le.mp hc.2
    exact Nat.lt_of_le_of_lt hz (by decide)
  · exact hu

end Text

namespace Command

/-! ## Spellings -/

/-- The texts of a number: its decimal digits after any number of zeros. -/
def Numeral (value : UInt32) (s : List Char) : Prop :=
  ∃ zeros, s = List.replicate zeros '0' ++ Nat.toDigits 10 value.toNat

/-- The texts of a token: the letters of its code in either case, any white space, and its
number. -/
def Token.Spelled (t : Token) (s : List Char) : Prop :=
  ∃ letters gap digits, s = letters ++ (gap ++ digits) ∧ letters.map Char.toUpper = t.code ∧
    Blank gap ∧ Numeral t.value digits

/-- The texts of tokens one after the other, with any white space before, between and after
them. -/
inductive Spelled : List Token → List Char → Prop
  | nil {gap : List Char} (hg : Blank gap) : Spelled [] gap
  | cons {t : Token} {ts : List Token} {gap word rest : List Char} (hg : Blank gap)
      (hw : t.Spelled word) (hr : Spelled ts rest) : Spelled (t :: ts) (gap ++ (word ++ rest))

namespace Numeral

variable {value : UInt32} {s : List Char}

theorem isDigit (h : Numeral value s) : ∀ c ∈ s, c.isDigit = true := by
  obtain ⟨zeros, rfl⟩ := h
  intro c hc
  rcases List.mem_append.mp hc with hc | hc
  · obtain rfl := List.eq_of_mem_replicate hc
    decide
  · exact Nat.isDigit_of_mem_toDigits (by decide) (by decide) hc

theorem ne_nil (h : Numeral value s) : s ≠ [] := by
  obtain ⟨zeros, rfl⟩ := h
  exact fun h => Nat.toDigits_ne_nil (List.append_eq_nil_iff.mp h).2

/-- The number is read back. -/
theorem read (h : Numeral value s) : Decimal.readUInt32 s = .ok value := by
  rw [Decimal.readUInt32_eq h.isDigit h.ne_nil]
  obtain ⟨zeros, rfl⟩ := h
  rw [Nat.ofDigitChars_append, Nat.ofDigitChars_replicate_zero, Nat.mul_zero,
    Nat.ofDigitChars_ten_toDigits, if_pos value.toNat_lt_size, UInt32.ofNat_toNat]

theorem uppercase (h : Numeral value s) : uppercase s = s :=
  uppercase_eq_self fun c hc => upper_of_isDigit (h.isDigit c hc)

end Numeral

/-- One letter or more. -/
def IsWord (code : List Char) : Prop := code ≠ [] ∧ ∀ c ∈ code, c.isAlpha = true

instance (code : List Char) : Decidable (IsWord code) :=
  decidable_of_iff ((!code.isEmpty && code.all Char.isAlpha) = true) (by simp [IsWord])

/-- The upper case of a token's text starts with its code. -/
theorem Token.Spelled.uppercase {t : Token} {s : List Char} (h : t.Spelled s) (ht : IsWord t.code) :
    ∃ gap digits, uppercase s = t.code ++ (gap ++ digits) ∧ Blank gap ∧ Numeral t.value digits := by
  obtain ⟨letters, gap, digits, rfl, hl, hg, hd⟩ := h
  refine ⟨gap, digits, ?_, hg, hd⟩
  have ha : ∀ c ∈ letters, c.toNat < 128 := fun c hc =>
    lt_of_isAlpha_toUpper (ht.2 _ (hl ▸ List.mem_map_of_mem hc))
  rw [uppercase_append, uppercase_append, uppercase_of_ascii ha, hl, hg.uppercase, hd.uppercase]

/-! ## Scanning -/

namespace Spelled

variable {ts : List Token} {s : List Char}

/-- The upper case of a text starts with white space and the code and number of its first token. -/
theorem uppercase_text {t : Token} {gap word : List Char} (rest : List Char) (hg : Blank gap)
    (hw : t.Spelled word) (ht : IsWord t.code) :
    ∃ inner digits, uppercase (gap ++ (word ++ rest)) =
        gap ++ (t.code ++ (inner ++ (digits ++ uppercase rest))) ∧
      Blank inner ∧ Numeral t.value digits := by
  obtain ⟨inner, digits, hu, hi, hd⟩ := hw.uppercase ht
  refine ⟨inner, digits, ?_, hi, hd⟩
  rw [uppercase_append, uppercase_append, hg.uppercase, hu]
  simp only [List.append_assoc]

/-- The upper case of a text does not start with a digit. -/
theorem head_not_digit (h : Spelled ts s) (ht : ∀ t ∈ ts, IsWord t.code) :
    ∀ c ∈ (uppercase s).head?, c.isDigit = false := by
  cases h with
  | nil hg =>
    intro c hc
    rw [hg.uppercase] at hc
    exact not_digit_of_isBlank (hg c (List.mem_of_mem_head? hc))
  | @cons t ts gap word rest hg hw hr =>
    obtain ⟨hne, ha⟩ := ht t List.mem_cons_self
    obtain ⟨inner, digits, hu, -, -⟩ := uppercase_text rest hg hw ⟨hne, ha⟩
    rw [hu, ← List.append_assoc]
    refine head?_append_of_forall (fun hn => hne (List.append_eq_nil_iff.mp hn).2) ?_ _
    intro c hc
    rcases List.mem_append.mp hc with hc | hc
    · exact not_digit_of_isBlank (hg c hc)
    · exact (not_digit_of_isAlpha (ha c hc)).1

/-- The tokens of a text are found again in its upper case. -/
theorem tokens_uppercase (h : Spelled ts s) (ht : ∀ t ∈ ts, IsWord t.code) :
    tokens (uppercase s) = ts := by
  induction h with
  | @nil gap hg =>
    rw [hg.uppercase, tokens, ← List.append_nil gap, lexemes_skip hg.not_alpha, lexemes]
    rfl
  | @cons t ts gap word rest hg hw hr ih =>
    obtain ⟨hf, hs⟩ := List.forall_mem_cons.mp ht
    obtain ⟨inner, digits, hu, hi, hd⟩ := uppercase_text rest hg hw hf
    rw [hu, tokens, lexemes_skip hg.not_alpha,
      lexemes_run hf.1 hf.2 hi hd.ne_nil hd.isDigit (hr.head_not_digit hs)]
    have hn : Lexeme.token? ⟨t.code, digits⟩ = some t := by
      rw [Lexeme.token?, Lexeme.number, hd.read]
      rfl
    rw [List.filterMap_cons, hn]
    exact congrArg (t :: ·) (ih hs)

/-- The letters in the upper case of a text are those of the codes. -/
theorem mem_uppercase (h : Spelled ts s) (ht : ∀ t ∈ ts, IsWord t.code) {c : Char}
    (hc : c.isAlpha = true) : c ∈ uppercase s ↔ ∃ t ∈ ts, c ∈ t.code := by
  obtain ⟨hcd, hcb⟩ := not_digit_of_isAlpha hc
  have hblank : ∀ {gap}, Blank gap → c ∉ gap := fun hg hm => by
    rw [hg c hm] at hcb
    cases hcb
  induction h with
  | nil hg =>
    rw [hg.uppercase]
    simp [hblank hg]
  | @cons t ts gap word rest hg hw hr ih =>
    obtain ⟨hf, hs⟩ := List.forall_mem_cons.mp ht
    obtain ⟨inner, digits, hu, hi, hd⟩ := uppercase_text rest hg hw hf
    have hdigits : c ∉ digits := fun hm => by
      rw [hd.isDigit c hm] at hcd
      cases hcd
    simp [hu, hblank hg, hblank hi, hdigits, ih hs]

end Spelled

/-! ## Order -/

/-- Reading tokens in another order makes no difference if those for one group of fields keep
theirs; here there is at most one for each group. -/
theorem foldl_read_perm {Form Field : Type} {ofCode? : List Char → Option Field}
    {set : Form → Field → UInt32 → Form} {group : Field → Nat}
    (hset : ∀ f g, group f ≠ group g →
      ∀ form v w, set (set form f v) g w = set (set form g w) f v)
    {ts us : List Token} (hp : ts.Perm us)
    (hg : (us.map (·.code)).Pairwise fun a b => (ofCode? a).map group ≠ (ofCode? b).map group)
    (form : Form) :
    let read (form : Form) (t : Token) := ((ofCode? t.code).map (set form · t.value)).getD form
    ts.foldl read form = us.foldl read form := by
  intro read
  have hcomm : us.Pairwise fun t u => ∀ form, read (read form t) u = read (read form u) t := by
    refine (List.pairwise_map.mp hg).imp fun {t u} hne form => ?_
    cases ht : ofCode? t.code with
    | none => simp [read, ht]
    | some f =>
      cases hu : ofCode? u.code with
      | none => simp [read, hu]
      | some g =>
        simp only [read, ht, hu, Option.map_some, Option.getD_some]
        exact hset f g (fun h => hne (by rw [ht, hu, Option.map_some, Option.map_some, h])) _ _ _
  refine hp.foldl_eq' (fun t ht u hu form => ?_) form
  refine List.Pairwise.forall_of_forall_of_flip (fun _ _ _ => rfl) hcomm ?_ (hp.mem_iff.mp ht)
    (hp.mem_iff.mp hu) form
  exact hcomm.imp fun h form => (h form).symm

/-- The group of a field: a button is one, whatever is done with it. -/
def ButtonField.group : ButtonField → Nat
  | .device => 0
  | .button _ => 1
  | .duration => 2

theorem ButtonForm.set_comm {f g : ButtonField} (h : f.group ≠ g.group) (form : ButtonForm)
    (v w : UInt32) : (form.set f v).set g w = (form.set g w).set f v := by
  cases f <;> cases g <;> first | rfl | exact absurd rfl h

/-- The group of a field: the push button is one, whatever is done with it. -/
def EncoderField.group : EncoderField → Nat
  | .device => 0
  | .left => 1
  | .right => 2
  | .fastLeft => 3
  | .fastRight => 4
  | .action _ => 5
  | .duration => 6

theorem EncoderForm.set_comm {f g : EncoderField} (h : f.group ≠ g.group) (form : EncoderForm)
    (v w : UInt32) : (form.set f v).set g w = (form.set g w).set f v := by
  cases f <;> cases g <;> first | rfl | exact absurd rfl h

/-! ## The two forms -/

/-- The code of a button's mode. -/
def buttonCode : Mode → List Char
  | .pulse => ['B']
  | .press => ['P', 'B']
  | .release => ['R', 'B']
  | .toggle => ['T', 'B']

/-- The code of a push button, which is either toggled or pulsed. -/
def pushCode : Bool → List Char
  | true => ['T', 'A']
  | false => ['A']

/-- The tokens of a button command. -/
def buttonTokens (device button : UInt32) (mode : Mode) (duration? : Option UInt32) : List Token :=
  [⟨['D'], device⟩, ⟨buttonCode mode, button⟩] ++ duration?.toList.map (⟨['P'], ·⟩)

/-- The tokens of an encoder command; the push button comes with whether it is toggled. -/
def encoderTokens (device left right : UInt32) (fastLeft? fastRight? : Option UInt32)
    (action? : Option (Bool × UInt32)) (duration? : Option UInt32) : List Token :=
  [⟨['D'], device⟩, ⟨['L'], left⟩, ⟨['R'], right⟩] ++ fastLeft?.toList.map (⟨['F', 'L'], ·⟩) ++
    fastRight?.toList.map (⟨['F', 'R'], ·⟩) ++
    action?.toList.map (fun a => ⟨pushCode a.1, a.2⟩) ++
    duration?.toList.map (⟨['P'], ·⟩)

theorem value_decodeButton (s : List Char) :
    (decodeButton s).value =
      ((tokens s).foldl (fun form t => (form.read? t).getD form) ({} : ButtonForm)).descriptor :=
  congrArg ButtonForm.descriptor (value_fill ..)

theorem value_decodeEncoder (s : List Char) :
    (decodeEncoder s).value =
      ((tokens s).foldl (fun form t => (form.read? t).getD form) ({} : EncoderForm)).descriptor :=
  congrArg EncoderForm.descriptor (value_fill ..)

/-- The codes of a button command are words without an `L`, for different groups. -/
theorem buttonTokens_codes (device button : UInt32) (mode : Mode) (duration? : Option UInt32) :
    let codes := (buttonTokens device button mode duration?).map (·.code)
    (∀ code ∈ codes, IsWord code ∧ 'L' ∉ code) ∧
      codes.Pairwise fun a b =>
        (ButtonField.ofCode? a).map ButtonField.group ≠
          (ButtonField.ofCode? b).map ButtonField.group := by
  cases mode <;> cases duration? <;>
    simp only [buttonTokens, buttonCode, Option.toList, List.map, List.cons_append,
      List.nil_append] <;>
    decide

/-- The codes of an encoder command are words, one of them with an `L`, for different groups. -/
theorem encoderTokens_codes (device left right : UInt32) (fastLeft? fastRight? : Option UInt32)
    (action? : Option (Bool × UInt32)) (duration? : Option UInt32) :
    let codes :=
      (encoderTokens device left right fastLeft? fastRight? action? duration?).map (·.code)
    (∀ code ∈ codes, IsWord code) ∧ ['L'] ∈ codes ∧
      codes.Pairwise fun a b =>
        (EncoderField.ofCode? a).map EncoderField.group ≠
          (EncoderField.ofCode? b).map EncoderField.group := by
  rcases action? with _ | ⟨_ | _, action⟩ <;> cases fastLeft? <;> cases fastRight? <;>
    cases duration? <;>
    simp only [encoderTokens, pushCode, Option.toList, List.map, List.cons_append,
      List.nil_append] <;>
    decide

theorem decodeKey_button {ts : List Token} {s : List Char} {device button : UInt32} {mode : Mode}
    {duration? : Option UInt32} (hp : ts.Perm (buttonTokens device button mode duration?))
    (hs : Spelled ts s) :
    decodeKey (.ofList (uppercase s)) =
      Descriptor.button device button (duration?.getD 250) mode := by
  obtain ⟨hw, hg⟩ := buttonTokens_codes device button mode duration?
  have hm : ∀ t ∈ ts, IsWord t.code ∧ 'L' ∉ t.code := fun t h =>
    hw _ (List.mem_map_of_mem (hp.mem_iff.mp h))
  have hl : 'L' ∉ uppercase s := fun h => by
    obtain ⟨t, ht, hc⟩ := (hs.mem_uppercase (fun t h => (hm t h).1) (by decide)).mp h
    exact (hm t ht).2 hc
  rw [decodeKey, String.toList_ofList, if_neg hl, value_decodeButton,
    hs.tokens_uppercase fun t h => (hm t h).1]
  have hf := foldl_read_perm (fun _ _ h => ButtonForm.set_comm h) hp hg {}
  refine (congrArg ButtonForm.descriptor hf).trans ?_
  cases mode <;> cases duration? <;> rfl

theorem decodeKey_encoder {ts : List Token} {s : List Char} {device left right : UInt32}
    {fastLeft? fastRight? : Option UInt32} {action? : Option (Bool × UInt32)}
    {duration? : Option UInt32}
    (hp : ts.Perm (encoderTokens device left right fastLeft? fastRight? action? duration?))
    (hs : Spelled ts s) :
    decodeKey (.ofList (uppercase s)) =
      Descriptor.encoder device
        { left, right, fastLeft := fastLeft?.getD 0, fastRight := fastRight?.getD 0
          action := (action?.map (·.2)).getD 0
          mode := if (action?.map (·.1)).getD false then .toggle else .pulse }
        (duration?.getD 250) := by
  obtain ⟨hw, hc, hg⟩ :=
    encoderTokens_codes device left right fastLeft? fastRight? action? duration?
  have hm : ∀ t ∈ ts, IsWord t.code := fun t h => hw _ (List.mem_map_of_mem (hp.mem_iff.mp h))
  have hl : 'L' ∈ uppercase s := by
    obtain ⟨t, ht, htc⟩ := List.mem_map.mp hc
    exact (hs.mem_uppercase hm (by decide)).mpr
      ⟨t, hp.mem_iff.mpr ht, htc ▸ List.mem_singleton_self _⟩
  rw [decodeKey, String.toList_ofList, if_pos hl, value_decodeEncoder, hs.tokens_uppercase hm]
  have hf := foldl_read_perm (fun _ _ h => EncoderForm.set_comm h) hp hg {}
  refine (congrArg EncoderForm.descriptor hf).trans ?_
  rcases action? with _ | ⟨_ | _, action⟩ <;> cases fastLeft? <;> cases fastRight? <;>
    cases duration? <;> rfl

/-- Every command of the documented grammar decodes to what it says, by whichever decoder: a button
command to its button, with the mode that the code names, and an encoder command to its encoder.
The tokens stand in any order, in letters of either case, with any zeros in front of the numbers and
any white space around them and before the numbers; a button that is absent is zero, and the pulse
length is 250 where there is none. -/
theorem commands_decode {trace : List Exchange} {p : Pool} (h : History trace p) (i : Nat)
    {ts : List Token} {command : String} (hs : Spelled ts command.toList) :
    let decoded := ((p.cacheAt i).decode command).value.1
    (∀ device button mode duration?,
      ts.Perm (buttonTokens device button mode duration?) →
        decoded = Descriptor.button device button (duration?.getD 250) mode) ∧
    ∀ device left right fastLeft? fastRight? action? duration?,
      ts.Perm (encoderTokens device left right fastLeft? fastRight? action? duration?) →
        decoded = Descriptor.encoder device
          { left, right, fastLeft := fastLeft?.getD 0, fastRight := fastRight?.getD 0
            action := (action?.map (·.2)).getD 0
            mode := if (action?.map (·.1)).getD false then .toggle else .pulse }
          (duration?.getD 250) := by
  intro decoded
  have hd : decoded = decodeKey (.ofList (uppercase command.toList)) :=
    (h.kept.ledgers i).sound.decode command
  rw [hd]
  exact ⟨fun _ _ _ _ hp => decodeKey_button hp hs,
    fun _ _ _ _ _ _ _ hp => decodeKey_encoder hp hs⟩

/-- A toggled button after its white space, and then its device. -/
theorem commands_decode_toggle :
    let command := " tb\u2003 0012D1"
    Spelled [⟨['T', 'B'], 12⟩, ⟨['D'], 1⟩] command.toList ∧
      (({} : Cache).decode command).value.1 = Descriptor.button 1 12 250 .toggle := by
  intro command
  have hb : Token.Spelled ⟨['T', 'B'], 12⟩ ['t', 'b', '\u2003', ' ', '0', '0', '1', '2'] :=
    ⟨['t', 'b'], ['\u2003', ' '], ['0', '0', '1', '2'], rfl, by decide, by decide, 2, rfl⟩
  have hd : Token.Spelled ⟨['D'], 1⟩ ['D', '1'] :=
    ⟨['D'], [], ['1'], rfl, by decide, by decide, 0, rfl⟩
  have hspace : Blank [' '] := by decide
  have hempty : Blank [] := by decide
  have hc : [' ', 't', 'b', '\u2003', ' ', '0', '0', '1', '2', 'D', '1'] = command.toList := by
    decide +kernel
  have hs : Spelled [⟨['T', 'B'], 12⟩, ⟨['D'], 1⟩] command.toList :=
    hc ▸ .cons hspace hb (.cons hempty hd (.nil hempty))
  have hp : [⟨['T', 'B'], 12⟩, ⟨['D'], 1⟩].Perm (buttonTokens 1 12 .toggle none) := .swap ..
  exact ⟨hs, (commands_decode .nil 0 hs).1 1 12 .toggle none hp⟩

end Command

end ControlDeck
