import ControlDeck.Console
import ControlDeck.Proofs.Integers
import ControlDeck.Proofs.Requests
import ControlDeck.Proofs.Words

/-!
# What the console makes of a line

What a line asks for depends on its first word and on how the text behind that word is read.

- **Verbs** (`Reads`): the reading of the text behind each first word. A line asks for what is read
  (`reads_line`).
- **Refused lines** (`Malformed`): the words of the lines that ask for nothing the console can do;
  `ofLine_eq_error_iff` says that these are the ones that are refused.
- **Gestures** (`Typed`, `Conveys`): the lines of a gesture, and what it is for a line to have the
  effect and the answer of a surface event (`conveys_perform`).
- `lines_carried_out`: all lines, in any state.
-/

namespace ControlDeck

open Command Decimal Device Dispatch Text

/-! ## Texts of numbers -/

namespace Decimal

variable {s : List Char}

theorem Digits.solid {n : Nat} (h : Digits n s) : Solid s :=
  ⟨h.ne_nil, fun c hc => not_blank_of_isDigit (h.isDigit c hc)⟩

theorem solid_sign {c : Char} (hc : isBlank c = false) (h : Solid s) : Solid (c :: s) :=
  ⟨List.cons_ne_nil _ _, List.forall_mem_cons.mpr ⟨hc, h.2⟩⟩

theorem Signed.solid {i : Int} (h : Signed i s) : Solid s := by
  cases h with
  | plain h => exact h.solid
  | plus h => exact solid_sign (by decide) h.solid
  | minus h => exact solid_sign (by decide) h.solid

end Decimal

/-! ## Verbs -/

namespace Verb

/-- The first words of the lines that the console knows. -/
def names : List (List Char) :=
  ["quit", "exit", "rotate", "push", "decode", "state", "journal"].map String.toList

/-- What a line with a given first word asks for, by the text behind that word. -/
inductive Reads (arguments : List Char) : List Char → Except LineError Verb → Prop
  | quit : Reads arguments "quit".toList (.ok .quit)
  | exit : Reads arguments "exit".toList (.ok .quit)
  | rotate : Reads arguments "rotate".toList (readRotate arguments)
  | push : Reads arguments "push".toList (.ok (.push arguments))
  | decode : Reads arguments "decode".toList (.ok (.decode arguments))
  | state : Reads arguments "state".toList (readState arguments)
  | journal : Reads arguments "journal".toList (.ok .journal)
  | unknown {w : List Char} (h : w ∉ names) : Reads arguments w (.error (.unknownCommand w))

/-- What may stand behind `rotate`: a number, and a command of one word or more. -/
def TurnArguments (ws : List (List Char)) : Prop :=
  ∃ w command more n, ws = w :: command :: more ∧ Signed (Int32.toInt n) w

/-- What may stand behind `state`: two ids and no more. -/
def StateArguments (ws : List (List Char)) : Prop :=
  ∃ w w' d b, ws = [w, w'] ∧ Unsigned (UInt32.toNat d) w ∧ Unsigned (UInt32.toNat b) w'

/-- The words of the lines that are refused: the first is none that the console knows, or it is
`rotate` without a number and a command behind it, or `state` without two ids. -/
inductive Malformed : List (List Char) → Prop
  | unknown {w : List Char} {ws : List (List Char)} (h : w ∉ names) : Malformed (w :: ws)
  | rotate {ws : List (List Char)} (h : ¬ TurnArguments ws) : Malformed ("rotate".toList :: ws)
  | state {ws : List (List Char)} (h : ¬ StateArguments ws) : Malformed ("state".toList :: ws)

section

variable {line w rest a : List Char} {v : Verb}

/-- The first word and the text behind it say what is asked for. -/
theorem Reads.unique {r r' : Except LineError Verb} (h : Reads a w r) (h' : Reads a w r') :
    r = r' := by
  generalize hw : w = w' at h'
  cases h <;> cases h' <;> first | rfl | simp_all [names]

/-- What a line asks for is read from its first word and the text behind it. -/
theorem reads_ofLine (hw : Solid w) (he : Ends rest) :
    Reads (trim rest) w (ofLine (w ++ rest)) := by
  have hs : (splitFirst (w ++ rest)).getD (w ++ rest, []) = (w, rest.tail) := by
    by_cases hr : rest = []
    · rw [hr, List.append_nil, splitFirst_solid hw]
      rfl
    · rw [splitFirst_append hw he hr]
      rfl
  have hl : ∀ {s : String}, String.ofList w = s → w = s.toList := fun h => by
    rw [← h, String.toList_ofList]
  rw [ofLine, hs]
  dsimp only
  rw [trim_tail he]
  split
  · rename_i h
    exact absurd (hl h) hw.1
  · rename_i h
    obtain rfl := hl h
    exact .quit
  · rename_i h
    obtain rfl := hl h
    exact .exit
  · rename_i h
    obtain rfl := hl h
    exact .rotate
  · rename_i h
    obtain rfl := hl h
    exact .push
  · rename_i h
    obtain rfl := hl h
    exact .decode
  · rename_i h
    obtain rfl := hl h
    exact .state
  · rename_i h
    obtain rfl := hl h
    exact .journal
  · refine .unknown fun hn => ?_
    obtain ⟨s, hs, rfl⟩ := List.mem_map.mp hn
    simp_all [String.ofList_toList]

/-- A line has no words and asks for nothing, or it is read from its first word and the text behind
it. -/
theorem reads_line (line : List Char) :
    (words line = [] ∧ ofLine (trim line) = .ok .nothing) ∨
      ∃ w a, words line = w :: words a ∧ Trimmed a ∧ Reads a w (ofLine (trim line)) := by
  obtain ⟨-, -, -, -, -, ht⟩ := exists_trim line
  by_cases hn : trim line = []
  · refine .inl ⟨?_, by rw [hn]; rfl⟩
    rw [← words_trim, hn, words_nil]
  · obtain ⟨w, rest, hl, hw, he⟩ := exists_word hn ht.first
    obtain ⟨-, -, -, -, -, ha⟩ := exists_trim rest
    refine .inr ⟨w, trim rest, ?_, ha, ?_⟩
    · rw [← words_trim, hl, words_append hw he, words_trim]
    · rw [hl]
      exact reads_ofLine hw he

/-! ## Arguments -/

/-- A command behind a number is taken as it is, without the white space at its ends. -/
theorem readRotate_append (hw : Solid w) (he : Ends rest) (hr : rest ≠ []) :
    readRotate (w ++ rest) =
      ((readInt32 w).map fun n => .rotate n (trim rest)).mapError (.invalidRotation w) := by
  rw [readRotate, splitFirst_append hw he hr]
  dsimp only
  rw [trim_tail he]
  cases readInt32 w <;> rfl

/-- The arguments of `rotate` are read if there is a number and something behind it. -/
theorem readRotate_eq_ok_iff (ha : Trimmed a) :
    (∃ v, readRotate a = .ok v) ↔ TurnArguments (words a) := by
  by_cases hn : a = []
  · subst hn
    rw [words_nil]
    exact iff_of_false (fun ⟨_, h⟩ => by cases h) fun ⟨_, _, _, _, h, _⟩ => by cases h
  obtain ⟨w, rest, rfl, hw, he⟩ := exists_word hn ha.first
  rw [words_append hw he]
  by_cases hr : rest = []
  · subst hr
    rw [List.append_nil, readRotate, splitFirst_solid hw, words_nil]
    exact iff_of_false (fun ⟨_, h⟩ => by cases h) fun ⟨_, _, _, _, h, _⟩ => by cases h
  · have hl := ha.last
    rw [List.getLast?_append_of_ne_nil w hr] at hl
    obtain ⟨command, more, hws⟩ := List.exists_cons_of_ne_nil (words_ne_nil hl hr)
    rw [readRotate_append hw he hr, hws]
    constructor
    · rintro ⟨v, h⟩
      cases hn : readInt32 w with
      | ok n => exact ⟨w, command, more, n, rfl, readInt32_eq_ok_iff.mp hn⟩
      | error e =>
        rw [hn] at h
        cases h
    · rintro ⟨_, _, _, n, h, hn⟩
      obtain ⟨rfl, -⟩ := List.cons.inj h
      rw [readInt32_eq_ok_iff.mpr hn]
      exact ⟨_, rfl⟩

/-- Reading the arguments of `rotate` fails, or it answers a turn. -/
theorem readRotate_cases (a : List Char) :
    (∃ e, readRotate a = .error e ∧ ∀ d, e ≠ .dispatch d) ∨
      ∃ n command, readRotate a = .ok (.rotate n command) := by
  rw [readRotate]
  split
  · exact .inl ⟨_, rfl, nofun⟩
  · split
    · exact .inr ⟨_, _, rfl⟩
    · exact .inl ⟨_, rfl, nofun⟩

/-- Ids are read one by one. -/
theorem forall₂_of_mapM {ws : List (List Char)} {ids : List UInt32}
    (h : ws.mapM readUInt32 = .ok ids) :
    List.Forall₂ (fun w n => Unsigned (UInt32.toNat n) w) ws ids := by
  induction ws generalizing ids with
  | nil =>
    obtain rfl := Except.ok.inj h
    exact .nil
  | cons w ws ih =>
    rw [List.mapM_cons] at h
    cases hw : readUInt32 w with
    | error e =>
      rw [hw] at h
      cases h
    | ok n =>
      cases hws : ws.mapM readUInt32 with
      | error e =>
        rw [hw, hws] at h
        cases h
      | ok ns =>
        rw [hw, hws] at h
        obtain rfl := Except.ok.inj h
        exact .cons (readUInt32_eq_ok_iff.mp hw) (ih hws)

theorem readState_of_words {w' : List Char} {d b : UInt32} (ha : words a = [w, w'])
    (hd : Unsigned d.toNat w) (hb : Unsigned b.toNat w') : readState a = .ok (.state ⟨d, b⟩) := by
  rw [readState, ha, readIds, List.mapM_cons, List.mapM_cons, List.mapM_nil,
    readUInt32_eq_ok_iff.mpr hd, readUInt32_eq_ok_iff.mpr hb]
  rfl

/-- Reading the arguments of `state` fails, or it answers a button. -/
theorem readState_cases (a : List Char) :
    (∃ e, readState a = .error e ∧ ∀ d, e ≠ .dispatch d) ∨ ∃ k, readState a = .ok (.state k) := by
  rw [readState, readIds]
  cases (words a).mapM readUInt32 with
  | error e => exact .inl ⟨_, rfl, nofun⟩
  | ok ids =>
    rcases ids with _ | ⟨d, _ | ⟨b, _ | ⟨_, _⟩⟩⟩
    · exact .inl ⟨_, rfl, nofun⟩
    · exact .inl ⟨_, rfl, nofun⟩
    · exact .inr ⟨_, rfl⟩
    · exact .inl ⟨_, rfl, nofun⟩

theorem readState_eq_ok_iff : (∃ v, readState a = .ok v) ↔ StateArguments (words a) := by
  constructor
  · rintro ⟨v, h⟩
    rw [readState, readIds] at h
    generalize words a = ws at h ⊢
    cases hm : ws.mapM readUInt32 with
    | error e =>
      rw [hm] at h
      cases h
    | ok ids =>
      rw [hm] at h
      cases forall₂_of_mapM hm with
      | nil => cases h
      | cons hd hr =>
        cases hr with
        | nil => cases h
        | cons hb hr =>
          cases hr with
          | nil => exact ⟨_, _, _, _, rfl, hd, hb⟩
          | cons => cases h
  · rintro ⟨w, w', d, b, ha, hd, hb⟩
    exact ⟨_, readState_of_words ha hd hb⟩

/-! ## Refused lines -/

theorem malformed_cons_iff {ws : List (List Char)} :
    Malformed (w :: ws) ↔ w ∉ names ∨ (w = "rotate".toList ∧ ¬ TurnArguments ws) ∨
      (w = "state".toList ∧ ¬ StateArguments ws) := by
  constructor
  · intro h
    generalize hl : w :: ws = l at h
    cases h with
    | unknown h =>
      obtain ⟨rfl, rfl⟩ := List.cons.inj hl
      exact .inl h
    | rotate h =>
      obtain ⟨rfl, rfl⟩ := List.cons.inj hl
      exact .inr (.inl ⟨rfl, h⟩)
    | state h =>
      obtain ⟨rfl, rfl⟩ := List.cons.inj hl
      exact .inr (.inr ⟨rfl, h⟩)
  · rintro (h | ⟨rfl, h⟩ | ⟨rfl, h⟩)
    · exact .unknown h
    · exact .rotate h
    · exact .state h

theorem exists_error_iff {ε α : Type} {x : Except ε α} :
    (∃ e, x = .error e) ↔ ¬ ∃ v, x = .ok v := by
  cases x <;> simp

/-- A line is refused if it is malformed. -/
theorem ofLine_eq_error_iff : (∃ e, ofLine (trim line) = .error e) ↔ Malformed (words line) := by
  rcases reads_line line with ⟨hw, h⟩ | ⟨w, a, hw, ha, h⟩
  · rw [hw, h]
    exact iff_of_false (fun ⟨_, h⟩ => by cases h) nofun
  rw [hw, malformed_cons_iff]
  generalize ofLine (trim line) = r at h
  cases h with
  | rotate =>
    rw [exists_error_iff, readRotate_eq_ok_iff ha]
    simp [names]
  | state =>
    rw [exists_error_iff, readState_eq_ok_iff]
    simp [names]
  | unknown h => exact iff_of_true ⟨_, rfl⟩ (.inl h)
  | _ => simp [names]

/-- A line is refused for what it says, not for what a dispatcher does. -/
theorem ne_dispatch {e : LineError} (h : ofLine (trim line) = .error e) (d : DispatchError) :
    e ≠ .dispatch d := by
  rcases reads_line line with ⟨hw, h'⟩ | ⟨w, a, hw, ha, h'⟩
  · cases h'.symm.trans h
  rw [h] at h'
  generalize hr : Except.error e = r at h'
  cases h' with
  | rotate =>
    obtain ⟨e', he, hd⟩ | ⟨n, command, he⟩ := readRotate_cases a
    · exact Except.error.inj (hr.trans he) ▸ hd d
    · cases hr.trans he
  | state =>
    obtain ⟨e', he, hd⟩ | ⟨k, he⟩ := readState_cases a
    · exact Except.error.inj (hr.trans he) ▸ hd d
    · cases hr.trans he
  | unknown h =>
    obtain rfl := Except.error.inj hr
    nofun
  | _ => cases hr

/-- Two lines end the console. -/
theorem ofLine_eq_quit_iff :
    ofLine (trim line) = .ok .quit ↔
      (words line).head? = some "quit".toList ∨ (words line).head? = some "exit".toList := by
  rcases reads_line line with ⟨hw, h⟩ | ⟨w, a, hw, ha, h⟩
  · rw [hw, h]
    exact iff_of_false nofun nofun
  rw [hw, List.head?_cons]
  generalize ofLine (trim line) = r at h
  cases h with
  | rotate =>
    obtain ⟨e, he, -⟩ | ⟨n, command, he⟩ := readRotate_cases a <;> simp [he]
  | state =>
    obtain ⟨e, he, -⟩ | ⟨k, he⟩ := readState_cases a <;> simp [he]
  | unknown h =>
    refine iff_of_false nofun fun hq => h ?_
    rcases hq with hq | hq
    · rw [Option.some.inj hq]
      decide
    · rw [Option.some.inj hq]
      decide
  | _ => simp

/-- Two ids behind `state` are read. -/
theorem ofLine_state {w' : List Char} {d b : UInt32} (hl : words line = ["state".toList, w, w'])
    (hd : Unsigned d.toNat w) (hb : Unsigned b.toNat w') :
    ofLine (trim line) = .ok (.state ⟨d, b⟩) := by
  rcases reads_line line with ⟨hw, -⟩ | ⟨_, a, hw, -, h⟩
  · cases hw.symm.trans hl
  obtain ⟨rfl, ha⟩ := List.cons.inj (hw.symm.trans hl)
  rw [h.unique .state, readState_of_words ha hd hb]

/-! ## Gestures -/

/-- The verb for a gesture on a command. -/
def ofGesture (command : List Char) : Gesture → Verb
  | .turn diff => .rotate diff command
  | .push => .push command

/-- The lines of a gesture: its verb, for a turn the ticks, and the command, with white space
between them. -/
inductive Typed (command : List Char) : Gesture → List Char → Prop
  | turn {n : Int32} {number gap gap' : List Char} (hn : Signed n.toInt number) (hg : Blank gap)
      (hne : gap ≠ []) (hg' : Blank gap') (hne' : gap' ≠ []) :
      Typed command (.turn n) ("rotate".toList ++ (gap ++ (number ++ (gap' ++ command))))
  | push {gap : List Char} (hg : Blank gap) (hne : gap ≠ []) :
      Typed command .push ("push".toList ++ (gap ++ command))

/-- The command of a gesture is read as it is typed. -/
theorem ofLine_typed {command : List Char} {g : Gesture} (ht : Trimmed command)
    (hc : command ≠ []) (h : Typed command g line) : ofLine line = .ok (.ofGesture command g) := by
  cases h with
  | @turn n number gap gap' hn hg hne hg' hne' =>
    have hw := hn.solid
    have he := hg.ends_append hne (number ++ (gap' ++ command))
    rw [(reads_ofLine (w := "rotate".toList) (by decide) he).unique .rotate,
      trim_gap hg (hw.trimmed.between ht hw.1 hc gap'), readRotate_append hw
        (hg'.ends_append hne' command) (List.append_ne_nil_of_left_ne_nil hne' command),
      trim_gap hg' ht, readInt32_eq_ok_iff.mpr hn]
    rfl
  | push hg hne =>
    have he := hg.ends_append hne command
    rw [(reads_ofLine (w := "push".toList) (by decide) he).unique .push, trim_gap hg ht]
    rfl

end

end Verb

/-! ## What a session does -/

namespace Session

/-- A dispatcher changes in its place. -/
theorem modify_lanes (s : Session) (i : Nat) (f : Lane → Lane) :
    s.lanes.modify i f = s.lanes.setIfInBounds i (f (s.lane i)) := by
  apply Array.ext_getElem?
  intro j
  rw [Array.getElem?_modify, Array.getElem?_setIfInBounds, lane, Array.getD_eq_getD_getElem?]
  split
  · subst j
    by_cases h : i < s.lanes.size <;> simp [h]
  · rfl

theorem modify_lanes_self {s : Session} {i : Nat} {f : Lane → Lane} (hf : f (s.lane i) = s.lane i) :
    s.lanes.modify i f = s.lanes := by
  rw [modify_lanes, hf, lane, Array.getD_eq_getD_getElem?]
  apply Array.ext_getElem?
  intro j
  rw [Array.getElem?_setIfInBounds]
  split
  · subst j
    by_cases h : i < s.lanes.size <;> simp [h]
  · rfl

/-- A producer's queue takes the place of the one before, and its worker is woken. -/
theorem setQueue_eq (s : Session) (i : Nat) (queue : Queue) :
    s.setQueue i queue =
      { s with
        lanes := s.lanes.modify i fun l => { l with worker.queue := queue }
        awake := (s.wake i).awake } := by
  rw [modify_lanes, setQueue, setWorker, setLane, wake, wake]
  dsimp only
  split <;> rfl

end Session

namespace Console

open Verb

/-- What becomes of a line that conveys a surface event: the answer is reported, and the session is
as before but for the cache, the queue of the dispatcher, and its worker, which is woken if the
event was dispatched. -/
structure Conveys (s : Session) (i : Nat) (event : Logged (Except DispatchError Outcome × Desk))
    (run : Logged (Reply × Session)) : Prop where
  printed : run.value.1.printed = []
  result : run.value.1.result = (event.value.1.map fun _ => true).mapError .dispatch
  session : run.value.2 =
    { s with
      cache := event.value.2.cache
      lanes := s.lanes.modify i fun l => { l with worker.queue := event.value.2.queue }
      awake := if event.value.1 = .ok .dispatched then (s.wake i).awake else s.awake }
  records : run.records =
    event.records ++ event.value.1.toOption.toList.map Notice.outcome

section

variable {s : Session} {i : Nat} {time : Nat → String} {line : String} {v : Verb}

theorem report_eq (o : Except DispatchError Outcome × Session) :
    report o =
      ⟨({ result := (o.1.map fun _ => true).mapError .dispatch }, o.2),
        o.1.toOption.toList.map Notice.outcome⟩ := by
  obtain ⟨_ | _, _⟩ := o <;> rfl

/-- A gesture is conveyed to the surface. -/
theorem conveys_perform (s : Session) (i : Nat) (time : Nat → String) (command : List Char)
    (g : Gesture) :
    Conveys s i
      ((s.lane i).surface.handle ⟨s.cache, (s.lane i).worker.queue⟩ (String.ofList command) g)
      (perform s i time (.ofGesture command g)) := by
  have hp : perform s i time (.ofGesture command g) =
      s.handle i (fun surface desk => surface.handle desk (String.ofList command) g) >>=
        report := by
    cases g <;> rfl
  obtain ⟨-, hq⟩ := (s.lane i).surface.handle_desk ⟨s.cache, (s.lane i).worker.queue⟩
    (String.ofList command) g
  rw [hp, Session.handle]
  generalize (s.lane i).surface.handle ⟨s.cache, (s.lane i).worker.queue⟩ (String.ofList command) g
    = event at hq ⊢
  obtain ⟨⟨answer, desk⟩, records⟩ := event
  refine ⟨?_, ?_, ?_, ?_⟩
  all_goals simp only [Logged.value_bind, Logged.records_bind, Logged.value_pure,
    Logged.records_pure, report_eq, List.append_nil]
  have hf : answer ≠ .ok .dispatched →
      (s.lanes.modify i fun l => { l with worker.queue := desk.queue }) = s.lanes := fun ha =>
    Session.modify_lanes_self
      (congrArg (fun q : Queue => { s.lane i with worker.queue := q }) (hq ha))
  rcases answer with _ | _ | _
  · rw [hf nofun]
    rfl
  · change Session.setQueue _ i desk.queue = _
    rw [Session.setQueue_eq, Session.wake, Session.wake]
    dsimp only
    split <;> rfl
  · rw [hf nofun]
    rfl
  · rw [hf nofun]
    rfl

/-- Only a line that asks for it ends the console. -/
theorem result_perform : (perform s i time v).value.1.result = .ok false ↔ v = .quit := by
  have hr : ∀ o : Except DispatchError Outcome,
      (o.map fun _ => true).mapError LineError.dispatch ≠ .ok false := fun o => by
    cases o <;> nofun
  cases v <;> simp [perform, report_eq, hr]

/-- What is carried out fails only if a dispatcher refuses it. -/
theorem error_perform {e : LineError} (h : (perform s i time v).value.1.result = .error e) :
    ∃ d, e = .dispatch d := by
  have hr : ∀ o : Except DispatchError Outcome,
      (o.map fun _ => true).mapError LineError.dispatch = .error e → ∃ d, e = .dispatch d := by
    rintro (d | _) h
    · exact ⟨d, (Except.error.inj h).symm⟩
    · cases h
  cases v <;> simp only [perform, report_eq, Logged.value_bind, Logged.value_pure] at h <;>
    first | exact hr _ h | cases h

theorem run_of_ok (h : ofLine (trim line.toList) = .ok v) :
    run s i time line = perform s i time v := by
  rw [run, h]

theorem run_of_error {e : LineError} (h : ofLine (trim line.toList) = .error e) :
    run s i time line = pure ({ result := .error e }, s) := by
  rw [run, h]

/-- The lines that ask for something to be shown leave everything but the cache. -/
theorem run_shown
    (h : (words line.toList).head? ∈ ["decode", "state", "journal"].map fun v => some v.toList) :
    ∃ cache, (run s i time line).value.2 = { s with cache } := by
  rcases reads_line line.toList with ⟨hw, -⟩ | ⟨w, a, hw, -, hr⟩
  · rw [hw] at h
    simp at h
  rw [hw, List.head?_cons] at h
  generalize ho : ofLine (trim line.toList) = r at hr
  cases hr with
  | decode => exact ⟨_, congrArg (·.value.2) (run_of_ok ho)⟩
  | journal => exact ⟨s.cache, congrArg (·.value.2) (run_of_ok ho)⟩
  | state =>
    obtain ⟨e, he, -⟩ | ⟨k, he⟩ := readState_cases a
    · exact ⟨s.cache, congrArg (·.value.2) (run_of_error (ho.trans he))⟩
    · exact ⟨s.cache, congrArg (·.value.2) (run_of_ok (ho.trans he))⟩
  | unknown hn =>
    refine absurd ?_ hn
    simp only [List.mem_map, List.mem_cons, List.not_mem_nil, or_false, Option.some.injEq] at h
    obtain ⟨v, rfl | rfl | rfl, rfl⟩ := h <;> decide
  | _ => simp at h

end

/-- What the console makes of a line, in any state of the session and of all dispatchers:

- it ends if the first word is `quit` or `exit`, and only then;
- it refuses the line if that is malformed, and only then, and nothing changes; any other failure is
  that a dispatcher refuses a job;
- a line that starts with `decode`, `state` or `journal` leaves everything but the cache;
- the line of a gesture is conveyed to the surface, with the number of ticks and the command as they
  are typed;
- the line of two ids prints whether that button is held. -/
theorem lines_carried_out (s : Session) (i : Nat) (time : Nat → String) (line : String) :
    let r := run s i time line
    let ws := words line.toList
    (r.value.1.result = .ok false ↔
      ws.head? = some "quit".toList ∨ ws.head? = some "exit".toList) ∧
    ((∃ e, r.value.1.result = .error e ∧ ∀ d, e ≠ .dispatch d) ↔ Malformed ws) ∧
    (Malformed ws → r.value.1.printed = [] ∧ r.value.2 = s) ∧
    (ws.head? ∈ ["decode", "state", "journal"].map (fun v => some v.toList) →
      ∃ cache, r.value.2 = { s with cache }) ∧
    (∀ command g, command ≠ [] → Trimmed command → Typed command g (trim line.toList) →
      let lane := s.lane i
      Conveys s i
        (lane.surface.handle ⟨s.cache, lane.worker.queue⟩ (String.ofList command) g) r) ∧
    ∀ device button w w', ws = ["state".toList, w, w'] → Unsigned (UInt32.toNat device) w →
      Unsigned (UInt32.toNat button) w' →
      let held := s.backend.joystick.isPressed ⟨device, button⟩
      let state := if held then "down" else "up"
      r = pure ({ printed := [s!"D{device}B{button} {state}"] }, s) := by
  intro r ws
  have hm : (∃ e, ofLine (trim line.toList) = .error e) ↔ Malformed ws := ofLine_eq_error_iff
  refine ⟨?_, ?_, ?_, run_shown, ?_, ?_⟩
  · rw [← ofLine_eq_quit_iff]
    cases h : ofLine (trim line.toList) with
    | error e => simp [r, run_of_error h]
    | ok v => simp [r, run_of_ok h, result_perform]
  · rw [← hm]
    cases h : ofLine (trim line.toList) with
    | error e =>
      rw [show r = _ from run_of_error h]
      exact iff_of_true ⟨e, rfl, ne_dispatch h⟩ ⟨e, rfl⟩
    | ok v =>
      rw [show r = _ from run_of_ok h]
      refine iff_of_false (fun ⟨e, he, hd⟩ => ?_) fun ⟨_, he⟩ => by cases he
      obtain ⟨d, rfl⟩ := error_perform he
      exact hd d rfl
  · intro h
    obtain ⟨e, he⟩ := hm.mpr h
    rw [show r = _ from run_of_error he]
    exact ⟨rfl, rfl⟩
  · intro command g hc ht h
    rw [show r = _ from run_of_ok (ofLine_typed ht hc h)]
    exact conveys_perform s i time command g
  · intro device button w w' hws hd hb
    exact run_of_ok (ofLine_state hws hd hb)

/-- A fast turn to the left with three kinds of white space, two ids with a sign and zeros, and a
turn by one tick too many. -/
theorem lines_carried_out_turn :
    let s : Session := { backend := { joystick := {} }, lanes := #[{}] }
    let answer := ({} : Surface).rotate ⟨{}, {}⟩ "D1 l10  R20 FL11" (-12)
    Conveys s 0 answer (run s 0 toString "\u3000rotate\u2003-12 \t D1 l10  R20 FL11\n") ∧
      answer.value.2.queue.jobs = [⟨⟨1, 11⟩, .pulse 250⟩] ∧
      run s 0 toString "state\t1 +011 " = pure ({ printed := ["D1B11 up"] }, s) ∧
      (run s 0 toString "rotate 2147483648 D1B1").value.2 = s := by
  intro s answer
  let command := "D1 l10  R20 FL11".toList
  obtain ⟨-, -, -, -, hturn, -⟩ :=
    lines_carried_out s 0 toString "\u3000rotate\u2003-12 \t D1 l10  R20 FL11\n"
  obtain ⟨-, -, -, -, -, hstate⟩ := lines_carried_out s 0 toString "state\t1 +011 "
  obtain ⟨-, -, hmalformed, -⟩ := lines_carried_out s 0 toString "rotate 2147483648 D1B1"
  have hticks : Signed (Int32.toInt (-12)) "-12".toList := by
    rw [show Int32.toInt (-12) = -12 by decide +kernel,
      show "-12".toList = (toString (-12 : Int)).toList by decide +kernel]
    exact signed_toString (-12)
  have htyped : Typed command (.turn (-12))
      ("rotate".toList ++ (['\u2003'] ++ ("-12".toList ++ ([' ', '\t', ' '] ++ command)))) :=
    .turn hticks (by decide) nofun (by decide) nofun
  have hdevice : Unsigned (UInt32.toNat 1) "1".toList := unsigned_toString 1
  have hbutton : Unsigned (UInt32.toNat 11) "+011".toList :=
    readUInt32_eq_ok_iff.mp (by decide +kernel)
  have htoo : ¬ TurnArguments ["2147483648".toList, "D1B1".toList] := by
    rintro ⟨w, command, more, n, hws, hn⟩
    obtain ⟨rfl, -⟩ := List.cons.inj hws
    have := readInt32_eq_ok_iff.mpr hn
    rw [show readInt32 "2147483648".toList = .error .tooLarge by decide +kernel] at this
    cases this
  refine ⟨?_, by decide +kernel, ?_, ?_⟩
  · have h := hturn command _ nofun (by decide +kernel) htyped
    rwa [String.ofList_toList] at h
  · refine (hstate 1 11 _ _ (by decide +kernel) hdevice hbutton).trans ?_
    exact congrArg (fun printed => pure (({ printed } : Reply), s)) (by decide +kernel)
  · refine (hmalformed ?_).2
    rw [show words "rotate 2147483648 D1B1".toList =
      ["rotate".toList, "2147483648".toList, "D1B1".toList] by decide +kernel]
    exact .rotate htoo

end Console

end ControlDeck
