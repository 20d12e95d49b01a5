/-!
# Log records

A computation with log records is its value together with the records it made, oldest first.

* `Level`: the severity of a record.
* `Logged`: a value with the records made on the way to it.
* `value_bind`, `records_bind`: values compose as if nothing were logged, records are strung
  together.
-/

namespace ControlDeck

/-- The severity of a log record, from the least to the most talkative. -/
inductive Level
  | error
  | warn
  | info
  | debug
  | trace
  deriving DecidableEq, Repr

/-- How talkative a level is; a level shows every record that is at most as talkative. -/
def Level.rank : Level → Nat
  | .error => 1
  | .warn => 2
  | .info => 3
  | .debug => 4
  | .trace => 5

/-- Whether a log that is open up to `limit` shows records of this level. -/
def Level.shownAt (level limit : Level) : Bool := level.rank ≤ limit.rank

/-- The name of a level. -/
def Level.name : Level → String
  | .error => "ERROR"
  | .warn => "WARN"
  | .info => "INFO"
  | .debug => "DEBUG"
  | .trace => "TRACE"

/-- One log record. -/
structure Record where
  level : Level
  text : String
  deriving DecidableEq, Repr

/-- A value and the records made on the way to it. -/
structure Logged (α : Type) where
  value : α
  records : List Record := []

namespace Logged

instance : Monad Logged where
  pure a := ⟨a, []⟩
  bind x f := ⟨(f x.value).value, x.records ++ (f x.value).records⟩

/-- Makes one record. -/
def note (record : Record) : Logged Unit := ⟨(), [record]⟩

@[ext] theorem ext {α : Type} {x y : Logged α} (hv : x.value = y.value)
    (hr : x.records = y.records) : x = y := by
  cases x; cases y; simp_all

@[simp] theorem value_pure {α : Type} (a : α) : (pure a : Logged α).value = a := rfl

@[simp] theorem records_pure {α : Type} (a : α) : (pure a : Logged α).records = [] := rfl

@[simp] theorem value_bind {α β : Type} (x : Logged α) (f : α → Logged β) :
    (x >>= f).value = (f x.value).value := rfl

@[simp] theorem records_bind {α β : Type} (x : Logged α) (f : α → Logged β) :
    (x >>= f).records = x.records ++ (f x.value).records := rfl

@[simp] theorem value_map {α β : Type} (f : α → β) (x : Logged α) : (f <$> x).value = f x.value :=
  rfl

@[simp] theorem records_note (record : Record) : (note record).records = [record] := rfl

@[simp] theorem value_ite {α : Type} (p : Prop) [Decidable p] (x y : Logged α) :
    (if p then x else y).value = if p then x.value else y.value := by
  split <;> rfl

@[simp] theorem value_foldlM {α β : Type} (f : β → α → Logged β) (b : β) (l : List α) :
    (l.foldlM f b).value = l.foldl (fun b a => (f b a).value) b := by
  induction l generalizing b with
  | nil => rfl
  | cons a l ih => exact ih (f b a).value

instance : LawfulMonad Logged := LawfulMonad.mk' Logged
  (fun x => by ext <;> simp [Functor.map])
  (fun x f => by ext <;> simp)
  (fun x f g => by ext <;> simp)

end Logged

end ControlDeck
