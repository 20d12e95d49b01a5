import ControlDeck.Proofs.Sections

/-!
# What a document overrides

Each setting of the program is what a document gives it, or else its default, and nothing but what
the document gives the settings has any influence.

- **Documents** (`Entries.given?`, `Config.sections`): what a document gives a setting of a section.
- **Readers** (`readNumber_eq_ok_iff`): a value is read as it stands or not at all.
- **Comparing** (`Value.agrees`): values without floats can be compared by evaluation.
- **Settings** (`Config.Reflects`): each setting is what the document gives it, or its default.
  `Config.ofTable_eq_ok_iff` says which documents are accepted, and with which settings.
- **Unread content** (`Config.Alike`): documents that differ in nothing that is read.
- `document_overrides`: the settings that a document gives.
-/

namespace ControlDeck

open Toml (Value Entries)

/-! ## Readers of values -/

section

variable {v : Value}

theorem readString_eq_ok_iff {x : String} : readString v = .ok x ↔ v = .string x := by
  cases v <;> simp [readString]

theorem readBoolean_eq_ok_iff {x : Bool} : readBoolean v = .ok x ↔ v = .boolean x := by
  cases v <;> simp [readBoolean]

/-- A number is read as it stands, or not at all. -/
theorem readNumber_eq_ok_iff {x : UInt32} : readNumber v = .ok x ↔ v = .integer x.toNat := by
  cases v
  case integer n =>
    rw [readNumber, Value.integer.injEq]
    have hx : x.toNat < UInt32.size := x.toNat_lt
    constructor
    · intro h
      split at h
      · rename_i hn
        obtain ⟨m, rfl⟩ := Int.eq_ofNat_of_zero_le hn.1
        have hm : m < UInt32.size := by omega
        rw [← Except.ok.inj h, Int.toNat_natCast, UInt32.toNat_ofNat_of_lt' hm]
      · cases h
    · rintro rfl
      rw [if_pos ⟨by omega, by omega⟩, Int.toNat_natCast, UInt32.ofNat_toNat]
  all_goals simp [readNumber]

/-- The integers that numbers are written as. -/
def written (l : List UInt32) : List Value := l.map fun n => .integer n.toNat

theorem mapM_readNumber {elements : List Value} {l : List UInt32} :
    elements.mapM readNumber = .ok l ↔ elements = written l := by
  induction elements generalizing l with
  | nil => cases l <;> simp [written, pure, Except.pure]
  | cons v elements ih =>
    simp only [List.mapM_cons, bind_eq_ok_iff, readNumber_eq_ok_iff, ih]
    constructor
    · rintro ⟨n, rfl, l', rfl, h⟩
      cases h
      rfl
    · intro h
      cases l with
      | nil => cases h
      | cons n l =>
        obtain ⟨rfl, rfl⟩ := List.cons.inj h
        exact ⟨n, rfl, l, rfl, rfl⟩

theorem readNumbers_eq_ok_iff {l : List UInt32} :
    readNumbers v = .ok l ↔ v.elements? = some (written l) := by
  cases v <;> simp [readNumbers, Value.elements?, mapM_readNumber]

end

/-! ## Comparing documents -/

namespace Toml

mutual

/-- Whether two values can be seen to be equal. A float is equal to none. -/
def Value.agrees : Value → Value → Bool
  | .string s, .string t => s == t
  | .integer m, .integer n => m == n
  | .boolean a, .boolean b => a == b
  | .datetime, .datetime => true
  | .array vs, .array ws | .tables vs, .tables ws => Value.agreeElements vs ws
  | .table o vs, .table p ws => o == p && Entries.agree vs ws
  | _, _ => false

def Value.agreeElements : List Value → List Value → Bool
  | [], [] => true
  | v :: vs, w :: ws => v.agrees w && Value.agreeElements vs ws
  | [], _ :: _ | _ :: _, [] => false

def Entries.agree : List (String × Value) → List (String × Value) → Bool
  | [], [] => true
  | (k, v) :: vs, (l, w) :: ws => k == l && v.agrees w && Entries.agree vs ws
  | [], _ :: _ | _ :: _, [] => false

end

mutual

/-- Values that can be seen to be equal are equal. -/
theorem Value.eq_of_agrees : ∀ {v w : Value}, v.agrees w = true → v = w
  | .array vs, w, h => by
    cases w <;> simp only [Value.agrees, Bool.false_eq_true] at h
    rw [Value.eq_of_agreeElements h]
  | .tables vs, w, h => by
    cases w <;> simp only [Value.agrees, Bool.false_eq_true] at h
    rw [Value.eq_of_agreeElements h]
  | .table o vs, w, h => by
    cases w <;> simp only [Value.agrees, Bool.false_eq_true, Bool.and_eq_true, beq_iff_eq] at h
    rw [h.1, Entries.eq_of_agree h.2]
  | .string _, w, h | .integer _, w, h | .float _, w, h | .boolean _, w, h | .datetime, w, h => by
    cases w <;> simp_all [Value.agrees]

theorem Value.eq_of_agreeElements :
    ∀ {vs ws : List Value}, Value.agreeElements vs ws = true → vs = ws
  | [], [], _ => rfl
  | v :: vs, w :: ws, h => by
    simp only [Value.agreeElements, Bool.and_eq_true] at h
    rw [Value.eq_of_agrees h.1, Value.eq_of_agreeElements h.2]
  | [], _ :: _, h | _ :: _, [], h => by cases h

theorem Entries.eq_of_agree :
    ∀ {vs ws : List (String × Value)}, Entries.agree vs ws = true → vs = ws
  | [], [], _ => rfl
  | (k, v) :: vs, (l, w) :: ws, h => by
    simp only [Entries.agree, Bool.and_eq_true, beq_iff_eq] at h
    rw [h.1.1, Value.eq_of_agrees h.1.2, Entries.eq_of_agree h.2]
  | [], _ :: _, h | _ :: _, [], h => by cases h

end

theorem eq_some_of_agree {o : Option Entries} {doc : Entries}
    (h : o.any (Entries.agree · doc) = true) : o = some doc := by
  obtain ⟨doc', rfl, h⟩ := (Option.any_eq_true _ _).mp h
  rw [Entries.eq_of_agree h]

end Toml

/-! ## Documents -/

/-- What a document gives a setting of a section. -/
def Toml.Entries.given? (doc : Entries) (name key : String) (place : Nat) : Option Value :=
  (doc.lookup name).bind (·.at? key place)

namespace Config

/-- The sections of a document. -/
def sections : List (String × Section Config) :=
  [("logging", logging), ("surface", surface), ("dispatcher", dispatching), ("device", device)]

theorem forall_sections {P : String × Section Config → Prop} :
    (∀ e ∈ sections, P e) ↔ P ("logging", logging) ∧ P ("surface", surface) ∧
      P ("dispatcher", dispatching) ∧ P ("device", device) := by
  simp [sections]

theorem document_settings : document.settings = sections.map fun e => e.2.setting e.1 := rfl

section

variable {α : Type} {doc : Entries} {c : Config} {name key : String} {sec : Section Config}
  {place index : Nat} {get : Config → α} {means : Value → α → α → Prop}

/-- What a section governs, the document assigns under the name of the section. -/
theorem assigns_document (hi : sections[index]? = some (name, sec))
    (hg : (sec.setting name).Governs get means)
    (hs : ∀ e ∈ sections, e.1 ≠ name → (e.2.setting e.1).Spares get) :
    document.Assigns name index get means where
  keys := by decide
  governs := by
    refine ⟨sec.setting name, ?_, rfl, hg⟩
    rw [document_settings, List.getElem?_map, hi]
    rfl
  spares st hst hn := by
    obtain ⟨e, he, rfl⟩ := List.mem_map.mp (document_settings ▸ hst)
    exact hs e he hn

/-- What a section assigns, a document makes what it gives the section's setting. -/
theorem follows_given (hi : sections[index]? = some (name, sec))
    (ha : sec.Assigns key place get means)
    (hs : ∀ e ∈ sections, e.1 ≠ name → ∀ st ∈ e.2.settings, st.Spares get)
    (hd : doc.Distinct) (h : ofTable doc = .ok c) :
    (doc.given? name key place).elim (get c = get {}) (means · (get {}) (get c)) := by
  have hdoc := assigns_document hi ha.governs_setting fun e he hn =>
    Section.spares_setting (hs e he hn)
  have hg := hdoc.readTable hd h
  unfold Entries.given?
  cases hl : doc.lookup name with
  | none =>
    rw [hl] at hg
    exact hg
  | some v =>
    rw [hl] at hg
    exact hg

/-- A part that is put by one section only is spared by the others. -/
theorem spares_sections (hl : "logging" ≠ name → ∀ c x, get { c with level := x } = get c)
    (hs : "surface" ≠ name → ∀ c x, get { c with fastTicks := x } = get c)
    (hd : "dispatcher" ≠ name → ∀ c x, get { c with dispatcher := x } = get c)
    (ha : "device" ≠ name → ∀ c x, get { c with available := x } = get c) :
    ∀ e ∈ sections, e.1 ≠ name → ∀ st ∈ e.2.settings, st.Spares get := by
  refine forall_sections.mpr ⟨fun hn => ?_, fun hn => ?_, fun hn => ?_, fun hn => ?_⟩
  · exact List.forall_mem_singleton.mpr (Setting.spares_leaf (hl hn))
  · exact List.forall_mem_singleton.mpr (Setting.spares_leaf (hs hn))
  · exact List.forall_mem_cons.mpr ⟨Setting.spares_leaf fun c x => hd hn c _,
      List.forall_mem_singleton.mpr (Setting.spares_leaf fun c x => hd hn c _)⟩
  · exact List.forall_mem_singleton.mpr (Setting.spares_leaf (ha hn))

end

/-! ### Which setting governs what -/

theorem assigns_level : logging.Assigns "level" 0 level fun v _ x => v = .string x where
  keys := by decide
  governs := ⟨_, rfl, rfl, Setting.governs_leaf fun _ _ _ h => readString_eq_ok_iff.mp h⟩
  spares := by simp [logging]

theorem assigns_fastTicks :
    surface.Assigns "fast_tick_threshold" 0 fastTicks fun v _ x => v = .integer x.toNat where
  keys := by decide
  governs := ⟨_, rfl, rfl, Setting.governs_leaf fun _ _ _ h => readNumber_eq_ok_iff.mp h⟩
  spares := by simp [surface]

theorem assigns_defaultPulse :
    dispatching.Assigns "default_pulse_ms" 0 (fun c => c.dispatcher.defaultPulse)
      fun v _ x => v = .integer x.toNat where
  keys := by decide
  governs := ⟨_, rfl, rfl, Setting.governs_leaf fun _ _ _ h => readNumber_eq_ok_iff.mp h⟩
  spares := List.forall_mem_cons.mpr ⟨fun hn => absurd rfl hn,
    List.forall_mem_singleton.mpr fun _ => Setting.spares_leaf fun _ _ => rfl⟩

theorem assigns_releaseOnShutdown :
    dispatching.Assigns "release_on_shutdown" 1 (fun c => c.dispatcher.releaseOnShutdown)
      fun v _ x => v = .boolean x where
  keys := by decide
  governs := ⟨_, rfl, rfl, Setting.governs_leaf fun _ _ _ h => readBoolean_eq_ok_iff.mp h⟩
  spares := List.forall_mem_cons.mpr ⟨fun _ => Setting.spares_leaf fun _ _ => rfl,
    List.forall_mem_singleton.mpr fun hn => absurd rfl hn⟩

theorem assigns_available :
    device.Assigns "available" 0 available fun v _ x => v.elements? = some (written x) where
  keys := by decide
  governs := ⟨_, rfl, rfl, Setting.governs_leaf fun _ _ _ h => readNumbers_eq_ok_iff.mp h⟩
  spares := by simp [device]

/-! ### The settings of a document -/

/-- Settings that a document names: each is what the document gives it, and its default where the
document gives it nothing. -/
structure Reflects (c : Config) (doc : Entries) : Prop where
  level : (doc.given? "logging" "level" 0).elim (c.level = ({} : Config).level)
    (· = .string c.level)
  fastTicks : (doc.given? "surface" "fast_tick_threshold" 0).elim
    (c.fastTicks = ({} : Config).fastTicks) (· = .integer c.fastTicks.toNat)
  defaultPulse : (doc.given? "dispatcher" "default_pulse_ms" 0).elim
    (c.dispatcher.defaultPulse = ({} : Config).dispatcher.defaultPulse)
    (· = .integer c.dispatcher.defaultPulse.toNat)
  releaseOnShutdown : (doc.given? "dispatcher" "release_on_shutdown" 1).elim
    (c.dispatcher.releaseOnShutdown = ({} : Config).dispatcher.releaseOnShutdown)
    (· = .boolean c.dispatcher.releaseOnShutdown)
  available : (doc.given? "device" "available" 0).elim (c.available = ({} : Config).available)
    (·.elements? = some (written c.available))

theorem reflects_of_ofTable {doc : Entries} {c : Config} (hd : doc.Distinct)
    (h : ofTable doc = .ok c) : c.Reflects doc where
  level := by
    refine follows_given (rfl : sections[0]? = _) assigns_level ?_ hd h
    exact spares_sections (fun hn => absurd rfl hn) (fun _ _ _ => rfl) (fun _ _ _ => rfl)
      fun _ _ _ => rfl
  fastTicks := by
    refine follows_given (rfl : sections[1]? = _) assigns_fastTicks ?_ hd h
    exact spares_sections (fun _ _ _ => rfl) (fun hn => absurd rfl hn) (fun _ _ _ => rfl)
      fun _ _ _ => rfl
  defaultPulse := by
    refine follows_given (rfl : sections[2]? = _) assigns_defaultPulse ?_ hd h
    exact spares_sections (fun _ _ _ => rfl) (fun _ _ _ => rfl) (fun hn => absurd rfl hn)
      fun _ _ _ => rfl
  releaseOnShutdown := by
    refine follows_given (rfl : sections[2]? = _) assigns_releaseOnShutdown ?_ hd h
    exact spares_sections (fun _ _ _ => rfl) (fun _ _ _ => rfl) (fun hn => absurd rfl hn)
      fun _ _ _ => rfl
  available := by
    refine follows_given (rfl : sections[3]? = _) assigns_available ?_ hd h
    exact spares_sections (fun _ _ _ => rfl) (fun _ _ _ => rfl) (fun _ _ _ => rfl)
      fun hn => absurd rfl hn

/-! ### Accepted documents -/

/-- Whether each value that a document has in the place of a section may be one. -/
def HasSections (doc : Entries) : Prop :=
  ∀ e ∈ sections, ∀ v, doc.lookup e.1 = some v → v.isSection = true

variable {doc doc' : Entries} {c c' : Config}

theorem hasSections_of_ofTable (hd : doc.Distinct) (h : ofTable doc = .ok c) :
    HasSections doc := by
  intro e he v hv
  obtain ⟨index, hi⟩ := List.getElem?_of_mem he
  have hdoc : document.Assigns e.1 index (fun _ => ()) fun v _ _ => v.isSection = true :=
    assigns_document hi (fun _ _ _ _ hs => Section.isSection_of_set hs) fun _ _ _ _ _ _ _ => rfl
  have hg := hdoc.readTable hd h
  rw [hv] at hg
  exact hg

theorem exists_ofTable (hd : doc.Distinct) (hs : HasSections doc)
    (ht : ∀ e ∈ sections, ∀ p ∈ e.2.settings.zipIdx, ∀ w,
      doc.given? e.1 p.1.key p.2 = some w → p.1.Takes w) : ∃ c, ofTable doc = .ok c := by
  refine Section.exists_readTable (fun st hst v hv => ?_) ({} : Config)
  obtain ⟨e, he, rfl⟩ := List.mem_map.mp (document_settings ▸ hst)
  have hl : doc.lookup e.1 = some v := Entries.lookup_of_mem hd.keys hv
  refine Section.takes_setting (hd.lookup hl) (hs e he v hl) fun i st hi w hw => ?_
  refine ht e he (st, i) (List.mk_mem_zipIdx_iff_getElem?.mpr hi) w ?_
  rw [Entries.given?, hl]
  exact hw

section

variable {α : Type} {read : Value → Except SettingError α} {means : Value → α → Prop}
  {o : Option Value} {x : α}

theorem read_of_elim {p : Prop} {v : Value} (hr : ∀ {v z}, read v = .ok z ↔ means v z)
    (h : o.elim p (means · x)) (ho : o = some v) : read v = .ok x := by
  rw [ho] at h
  exact hr.mpr h

theorem eq_of_elim {d y : α} (hr : ∀ {v z}, read v = .ok z ↔ means v z)
    (hx : o.elim (x = d) (means · x)) (hy : o.elim (y = d) (means · y)) : x = y := by
  cases o with
  | none => exact Eq.trans hx (Eq.symm hy)
  | some v => exact Except.ok.inj ((hr.mpr hx).symm.trans (hr.mpr hy))

end

theorem Reflects.takes (h : c.Reflects doc) : ∀ e ∈ sections, ∀ p ∈ e.2.settings.zipIdx, ∀ v,
    doc.given? e.1 p.1.key p.2 = some v → p.1.Takes v := by
  refine forall_sections.mpr ⟨List.forall_mem_singleton.mpr fun v hv => ?_,
    List.forall_mem_singleton.mpr fun v hv => ?_,
    List.forall_mem_cons.mpr ⟨fun v hv => ?_, List.forall_mem_singleton.mpr fun v hv => ?_⟩,
    List.forall_mem_singleton.mpr fun v hv => ?_⟩
  · exact Setting.takes_leaf (read_of_elim readString_eq_ok_iff h.level hv)
  · exact Setting.takes_leaf (read_of_elim readNumber_eq_ok_iff h.fastTicks hv)
  · exact Setting.takes_leaf (read_of_elim readNumber_eq_ok_iff h.defaultPulse hv)
  · exact Setting.takes_leaf (read_of_elim readBoolean_eq_ok_iff h.releaseOnShutdown hv)
  · exact Setting.takes_leaf (read_of_elim readNumbers_eq_ok_iff h.available hv)

/-- A document names no two settings. -/
theorem Reflects.unique (h : c.Reflects doc) (h' : c'.Reflects doc) : c = c' := by
  obtain ⟨l, f, ⟨p, r⟩, a⟩ := c
  obtain ⟨l', f', ⟨p', r'⟩, a'⟩ := c'
  obtain rfl : l = l' := eq_of_elim readString_eq_ok_iff h.level h'.level
  obtain rfl : f = f' := eq_of_elim readNumber_eq_ok_iff h.fastTicks h'.fastTicks
  obtain rfl : p = p' := eq_of_elim readNumber_eq_ok_iff h.defaultPulse h'.defaultPulse
  obtain rfl : r = r' := eq_of_elim readBoolean_eq_ok_iff h.releaseOnShutdown h'.releaseOnShutdown
  obtain rfl : a = a' := eq_of_elim readNumbers_eq_ok_iff h.available h'.available
  rfl

/-- A document is accepted if its sections are sections and what it names are values of settings. -/
theorem ofTable_eq_ok_iff (hd : doc.Distinct) :
    ofTable doc = .ok c ↔ HasSections doc ∧ c.Reflects doc := by
  constructor
  · exact fun h => ⟨hasSections_of_ofTable hd h, reflects_of_ofTable hd h⟩
  · rintro ⟨hs, hr⟩
    -- It is accepted with some settings, and no others are what it names.
    obtain ⟨c', hc⟩ := exists_ofTable hd hs hr.takes
    rw [hc, (reflects_of_ofTable hd hc).unique hr]

/-! ### What has no influence -/

/-- Whether two documents are alike but for what is not read: the order of sections and keys,
sections and keys that nobody knows, and elements beyond the settings. -/
def Alike (doc doc' : Entries) : Prop :=
  ∀ e ∈ sections, Option.Rel e.2.Alike (doc.lookup e.1) (doc'.lookup e.1)

theorem Alike.symm (h : Alike doc doc') : Alike doc' doc := by
  intro e he
  have hr := h e he
  generalize doc.lookup e.1 = o, doc'.lookup e.1 = o' at hr
  cases hr with
  | some hr => exact .some hr.symm
  | none => exact .none

theorem Alike.given?_eq (h : Alike doc doc') (hd : doc.Distinct) (hd' : doc'.Distinct) :
    ∀ e ∈ sections, ∀ p ∈ e.2.settings.zipIdx,
      doc'.given? e.1 p.1.key p.2 = doc.given? e.1 p.1.key p.2 := by
  intro e he p hp
  have hr := h e he
  have hi : e.2.settings[p.2]? = some p.1 := List.mk_mem_zipIdx_iff_getElem?.mp hp
  have hv : ∀ v, doc.lookup e.1 = some v → v.Distinct := fun _ => hd.lookup
  have hw : ∀ w, doc'.lookup e.1 = some w → w.Distinct := fun _ => hd'.lookup
  unfold Entries.given?
  generalize doc.lookup e.1 = o, doc'.lookup e.1 = o' at hr hv hw
  cases hr with
  | some hr => exact (hr.at?_eq (hv _ rfl) (hw _ rfl) hi).symm
  | none => rfl

theorem Alike.hasSections (h : Alike doc doc') (hs : HasSections doc) : HasSections doc' := by
  intro e he w hw
  have hr := h e he
  have hv := hs e he
  rw [hw] at hr
  generalize doc.lookup e.1 = o at hr hv
  cases hr with
  | some hr => exact hr.isSection_eq ▸ hv _ rfl

theorem Alike.reflects (h : Alike doc doc') (hd : doc.Distinct) (hd' : doc'.Distinct)
    (hc : c.Reflects doc) : c.Reflects doc' := by
  obtain ⟨hl, hs, hp, ha⟩ := forall_sections.mp (h.given?_eq hd hd')
  obtain ⟨hp, hr⟩ := List.forall_mem_cons.mp hp
  constructor
  · rw [List.forall_mem_singleton.mp hl]
    exact hc.level
  · rw [List.forall_mem_singleton.mp hs]
    exact hc.fastTicks
  · rw [hp]
    exact hc.defaultPulse
  · rw [List.forall_mem_singleton.mp hr]
    exact hc.releaseOnShutdown
  · rw [List.forall_mem_singleton.mp ha]
    exact hc.available

/-- Documents that are alike say the same. -/
theorem Alike.ofTable_eq_ok_iff (h : Alike doc doc') (hd : doc.Distinct) (hd' : doc'.Distinct) :
    ofTable doc = .ok c ↔ ofTable doc' = .ok c := by
  rw [Config.ofTable_eq_ok_iff hd, Config.ofTable_eq_ok_iff hd']
  constructor
  · rintro ⟨hs, hr⟩
    exact ⟨h.hasSections hs, h.reflects hd hd' hr⟩
  · rintro ⟨hs, hr⟩
    exact ⟨h.symm.hasSections hs, h.symm.reflects hd' hd hr⟩

/-! ### Integers out of range -/

/-- Whether a document gives an integer to a setting that is a number, or as the number of a
joystick. -/
def GivesNumber (doc : Entries) (n : Int) : Prop :=
  doc.given? "surface" "fast_tick_threshold" 0 = some (.integer n) ∨
    doc.given? "dispatcher" "default_pulse_ms" 0 = some (.integer n) ∨
      ∃ v elements, doc.given? "device" "available" 0 = some v ∧ v.elements? = some elements ∧
        .integer n ∈ elements

theorem Reflects.inRange {n : Int} (h : c.Reflects doc) (hn : GivesNumber doc n) :
    ∃ x : UInt32, n = x.toNat := by
  obtain hn | hn | ⟨v, elements, hv, he, hn⟩ := hn
  · have hf := h.fastTicks
    rw [hn] at hf
    exact ⟨_, Value.integer.inj hf⟩
  · have hp := h.defaultPulse
    rw [hn] at hp
    exact ⟨_, Value.integer.inj hp⟩
  · have ha := h.available
    rw [hv] at ha
    obtain rfl := Option.some.inj (he.symm.trans ha)
    obtain ⟨x, -, hx⟩ := List.mem_map.mp hn
    exact ⟨x, (Value.integer.inj hx).symm⟩

end Config

/-! ## The settings of a document -/

section

variable {s : String} {doc : Entries} {c : Config}

theorem parse_eq (h : Toml.parse? s = some doc) :
    Config.parse s = (Config.ofTable doc).mapError .setting := by
  rw [Config.parse, h]

theorem parse_eq_ok_iff (h : Toml.parse? s = some doc) :
    Config.parse s = .ok c ↔ Config.ofTable doc = .ok c := by
  rw [parse_eq h]
  cases Config.ofTable doc <;> simp [Except.mapError]

/-- A document overrides what it names. A text is accepted if it is a document in whose sections all
values that are named are of their kinds; each setting is then what the document gives it, or its
default, whatever else is there. Documents that differ in nothing that is read give the same
settings, and one that gives a number out of range is refused. -/
theorem document_overrides (s : String) :
    (∀ c, Config.parse s = .ok c ↔
      ∃ doc, Toml.parse? s = some doc ∧ Config.HasSections doc ∧ c.Reflects doc) ∧
    (∀ s' doc doc', Toml.parse? s = some doc → Toml.parse? s' = some doc' →
      Config.Alike doc doc' → ∀ c, Config.parse s = .ok c ↔ Config.parse s' = .ok c) ∧
    ∀ doc n, Toml.parse? s = some doc → Config.GivesNumber doc n →
      ¬ (0 ≤ n ∧ n < UInt32.size) → ∃ e, Config.parse s = .error (.setting e) := by
  refine ⟨fun c => ⟨fun hc => ?_, ?_⟩, fun s' doc doc' h h' ha c => ?_, fun doc n h hg hn => ?_⟩
  · cases h : Toml.parse? s with
    | none =>
      rw [Config.parse, h] at hc
      cases hc
    | some doc =>
      have hd := Toml.parse?_distinct h
      exact ⟨doc, rfl, (Config.ofTable_eq_ok_iff hd).mp ((parse_eq_ok_iff h).mp hc)⟩
  · rintro ⟨doc, h, hr⟩
    have hd := Toml.parse?_distinct h
    exact (parse_eq_ok_iff h).mpr ((Config.ofTable_eq_ok_iff hd).mpr hr)
  · have hd := Toml.parse?_distinct h
    have hd' := Toml.parse?_distinct h'
    rw [parse_eq_ok_iff h, parse_eq_ok_iff h', ha.ofTable_eq_ok_iff hd hd']
  · cases hc : Config.ofTable doc with
    | ok c =>
      obtain ⟨x, rfl⟩ := (Config.reflects_of_ofTable (Toml.parse?_distinct h) hc).inRange hg
      have hx : x.toNat < UInt32.size := x.toNat_lt
      exact absurd ⟨by omega, by omega⟩ hn
    | error e =>
      refine ⟨e, ?_⟩
      rw [parse_eq h, hc]
      rfl

/-- The order of sections does not matter, nor do a key and a section that nobody knows; a number
that is one too large is refused. -/
theorem document_overrides_reordered :
    (∃ c : Config, Config.parse "[surface]\n[device]\navailable = [2]\n" = .ok c ∧
      Config.parse "[device]\nname = 0\navailable = [2]\n[extra]\n[surface]\n" = .ok c ∧
      c = { available := [2] }) ∧
    ∃ e, Config.parse "surface = [4294967296]" = .error (.setting e) := by
  have h : Toml.parse? "[surface]\n[device]\navailable = [2]\n" =
      some [("surface", .table .header []),
        ("device", .table .header [("available", .array [.integer 2])])] :=
    Toml.eq_some_of_agree (by decide +kernel)
  have h' : Toml.parse? "[device]\nname = 0\navailable = [2]\n[extra]\n[surface]\n" =
      some [("device", .table .header [("name", .integer 0), ("available", .array [.integer 2])]),
        ("extra", .table .header []), ("surface", .table .header [])] :=
    Toml.eq_some_of_agree (by decide +kernel)
  have ho : Toml.parse? "surface = [4294967296]" =
      some [("surface", .array [.integer 4294967296])] :=
    Toml.eq_some_of_agree (by decide +kernel)
  have hs : Config.HasSections [("surface", .table .header []),
      ("device", .table .header [("available", .array [.integer 2])])] := by
    refine Config.forall_sections.mpr ⟨?_, ?_, ?_, ?_⟩
    all_goals
      intro v hv
      cases hv
    all_goals rfl
  have ha : Config.Alike [("surface", .table .header []),
        ("device", .table .header [("available", .array [.integer 2])])]
      [("device", .table .header [("name", .integer 0), ("available", .array [.integer 2])]),
        ("extra", .table .header []), ("surface", .table .header [])] := by
    refine Config.forall_sections.mpr ⟨.none, .some (.same _), .none, .some (.table ?_)⟩
    exact List.Perm.of_eq rfl
  obtain ⟨hgiven, hsame, -⟩ := document_overrides "[surface]\n[device]\navailable = [2]\n"
  obtain ⟨-, -, hrange⟩ := document_overrides "surface = [4294967296]"
  have hc := (hgiven { available := [2] }).mpr ⟨_, h, hs, ⟨rfl, rfl, rfl, rfl, rfl⟩⟩
  exact ⟨⟨_, hc, (hsame _ _ _ h h' ha _).mp hc, rfl⟩, hrange _ _ ho (.inl rfl) (by decide)⟩

end

end ControlDeck
