import ControlDeck.Command.Descriptor
import ControlDeck.Command.Token

/-!
# The two command grammars

A command is a list of tokens in any order. A token sets the field that its code names, so that of
several tokens for one field the last one counts; other codes are ignored.

* `ButtonField`, `EncoderField`: the fields of the two grammars, by code.
* `decodeButton`, `decodeEncoder`: a text read by either grammar.
* `decodeByLetter`: the grammar is chosen by the letter `L`.
-/

namespace ControlDeck.Command

/-! ## The button grammar -/

/-- What a token of a button command sets. -/
inductive ButtonField
  | device
  | button (mode : Mode)
  | duration
  deriving DecidableEq, Repr

/-- The field that a code of a button command names. -/
def ButtonField.ofCode? : List Char → Option ButtonField
  | ['D'] => some .device
  | ['B'] => some (.button .pulse)
  | ['P', 'B'] => some (.button .press)
  | ['R', 'B'] => some (.button .release)
  | ['T', 'B'] => some (.button .toggle)
  | ['P'] => some .duration
  | _ => none

/-- The fields of a button command, as far as they are known. -/
structure ButtonForm where
  device : UInt32 := 0
  button : UInt32 := 0
  mode : Mode := .pulse
  duration : UInt32 := defaultDuration
  deriving DecidableEq, Repr

/-- Fills in one field. -/
def ButtonForm.set (form : ButtonForm) (field : ButtonField) (value : UInt32) : ButtonForm :=
  match field with
  | .device => { form with device := value }
  | .button mode => { form with button := value, mode }
  | .duration => { form with duration := value }

/-- Fills in what a token names. -/
def ButtonForm.read? (form : ButtonForm) (t : Token) : Option ButtonForm :=
  (ButtonField.ofCode? t.code).map (form.set · t.value)

/-- The descriptor of a filled-in form. -/
def ButtonForm.descriptor (form : ButtonForm) : Descriptor :=
  .button form.device form.button form.duration form.mode

/-! ## The encoder grammar -/

/-- What a token of an encoder command sets. -/
inductive EncoderField
  | device
  | left
  | right
  | fastLeft
  | fastRight
  | action (mode : Mode)
  | duration
  deriving DecidableEq, Repr

/-- The field that a code of an encoder command names. -/
def EncoderField.ofCode? : List Char → Option EncoderField
  | ['D'] => some .device
  | ['L'] => some .left
  | ['R'] => some .right
  | ['F', 'L'] => some .fastLeft
  | ['F', 'R'] => some .fastRight
  | ['A'] => some (.action .pulse)
  | ['T', 'A'] => some (.action .toggle)
  | ['P'] => some .duration
  | _ => none

/-- The fields of an encoder command, as far as they are known. -/
structure EncoderForm where
  device : UInt32 := 0
  left : UInt32 := 0
  right : UInt32 := 0
  fastLeft : UInt32 := 0
  fastRight : UInt32 := 0
  action : UInt32 := 0
  mode : Mode := .pulse
  duration : UInt32 := defaultDuration
  deriving DecidableEq, Repr

/-- Fills in one field. -/
def EncoderForm.set (form : EncoderForm) (field : EncoderField) (value : UInt32) : EncoderForm :=
  match field with
  | .device => { form with device := value }
  | .left => { form with left := value }
  | .right => { form with right := value }
  | .fastLeft => { form with fastLeft := value }
  | .fastRight => { form with fastRight := value }
  | .action mode => { form with action := value, mode }
  | .duration => { form with duration := value }

/-- Fills in what a token names. -/
def EncoderForm.read? (form : EncoderForm) (t : Token) : Option EncoderForm :=
  (EncoderField.ofCode? t.code).map (form.set · t.value)

/-- The descriptor of a filled-in form. -/
def EncoderForm.descriptor (form : EncoderForm) : Descriptor :=
  .encoder form.device
    { left := form.left, right := form.right, fastLeft := form.fastLeft
      fastRight := form.fastRight, action := form.action, mode := form.mode }
    form.duration

/-! ## Reading -/

/-- The code of a token that names no field. -/
def Notice.unknownToken (grammar : String) (t : Token) : Record :=
  ⟨.debug, s!"Ignoring unknown {grammar} token {t.text}"⟩

/-- Reads lexemes into a form: numbers that do not fit and unknown codes change nothing. -/
def fill {Form : Type} (read? : Form → Token → Option Form) (grammar : String) :
    Form → List Lexeme → Logged Form
  | form, [] => pure form
  | form, l :: rest =>
    match l.number with
    | .error e => do
      Logged.note (Notice.droppedToken l e)
      fill read? grammar form rest
    | .ok value =>
      match read? form ⟨l.code, value⟩ with
      | some next => fill read? grammar next rest
      | none => do
        Logged.note (Notice.unknownToken grammar ⟨l.code, value⟩)
        fill read? grammar form rest

/-- What the lexemes of a text fill in is what its tokens fill in, one after the other. -/
theorem value_fill {Form : Type} (read? : Form → Token → Option Form) (grammar : String)
    (form : Form) (ls : List Lexeme) :
    (fill read? grammar form ls).value =
      (ls.filterMap Lexeme.token?).foldl (fun form t => (read? form t).getD form) form := by
  induction ls generalizing form with
  | nil => rfl
  | cons l rest ih =>
    unfold fill
    cases hn : l.number with
    | error e => simp [ih, Lexeme.token?, hn, Except.toOption]
    | ok value =>
      have ht : l.token? = some ⟨l.code, value⟩ := by simp [Lexeme.token?, hn, Except.toOption]
      cases hr : read? form ⟨l.code, value⟩ <;> simp [ih, ht, hr]

/-- Reads a text by the button grammar. -/
def decodeButton (command : List Char) : Logged Descriptor :=
  ButtonForm.descriptor <$> fill ButtonForm.read? "button" {} (lexemes command)

/-- Reads a text by the encoder grammar. -/
def decodeEncoder (command : List Char) : Logged Descriptor :=
  EncoderForm.descriptor <$> fill EncoderForm.read? "encoder" {} (lexemes command)

/-- Reads a text by the encoder grammar if it has an `L` anywhere, and else by the other. -/
def decodeByLetter (command : List Char) : Logged Descriptor :=
  if 'L' ∈ command then decodeEncoder command else decodeButton command

end ControlDeck.Command
