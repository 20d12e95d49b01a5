import ControlDeck.Toml.Number

/-!
# TOML documents

A document is a list of statements: pairs of a key and a value, and headers that say in which table
the pairs after them stand. The statements are read first and then carried out.

* `value`: a value of any kind.
* `Statement`, `statements`: the lines of a document.
* `Entries.insertAt`: enters a value under a dotted key.
* `Builder`: carries out statements; each may fail because a key or a table is there already.
* `parse?`: the contents of a document, if it is one.
-/

namespace ControlDeck.Toml

open Reader

/-! ## Tables -/

namespace Entries

/-- Changes the table at the end of a path. Tables that are missing on the way are made with the
origin `made`. Values are no tables, and dotted keys do not reach into a table that has a header;
of an array of tables the last one counts. -/
def modifyAt {α : Type} (made : Origin) (change : Origin → Entries → Option (α × Entries)) :
    List String → Origin → Entries → Option (α × Entries)
  | [], origin, entries => change origin entries
  | key :: path, _, entries =>
    match entries.lookup key with
    | none => do
      let (a, inner) ← modifyAt made change path made []
      return (a, entries.add key (.table made inner))
    | some (.table origin inner) =>
      if origin = .braces || (origin = .header && made = .dotted) then none
      else do
        let (a, inner) ← modifyAt made change path origin inner
        return (a, entries.replace key (.table origin inner))
    | some (.tables elements) =>
      match elements.getLast? with
      | some (.table origin inner) => do
        let (a, inner) ← modifyAt made change path origin inner
        return (a, entries.replace key (.tables (elements.dropLast ++ [.table origin inner])))
      | _ => none
    | some _ => none

/-- Enters a value under a dotted key. The last table on the way must be one that dotted keys made,
unless it is the table one starts from; no key is entered twice. -/
def insertAt (entries : Entries) (path : List String) (key : String) (value : Value) :
    Option Entries :=
  let enter (origin : Origin) (inner : Entries) : Option (Unit × Entries) :=
    if !path.isEmpty && origin ≠ .dotted then none
    else if (inner.lookup key).isSome then none
    else some ((), inner.add key value)
  (modifyAt .dotted enter path .header entries).map (·.2)

/-- Enters several values, one after the other. -/
def ofPairs (pairs : List ((List String × String) × Value)) : Option Entries :=
  pairs.foldlM (fun entries ((path, key), value) => entries.insertAt path key value) []

end Entries

/-! ## Values -/

/-- The elements of an array, after its opening bracket. -/
def elements (element : Reader Value) : Reader (List Value) := do
  let list ← maybe do
    let list ← separated (do gap; let v ← element; gap; return v) (char ',')
    let _ ← maybe (char ',')
    return list
  gap
  char ']'
  return list.getD []

/-- The pairs of a table between braces, after the opening one. -/
def bracedPairs (element : Reader Value) : Reader Entries := do
  let pair : Reader ((List String × String) × Value) := do
    let k ← key
    char '='
    blanks
    let v ← element
    blanks
    return (k, v)
  let pairs ← maybe (separated pair (char ','))
  blanks
  char '\x7d'
  match Entries.ofPairs (pairs.getD []) with
  | some entries => return entries
  | none => failure

/-- A value in which arrays and tables are nested at most `depth` times. -/
def valueOfDepth : Nat → Reader Value
  | 0 => scalarValue
  | depth + 1 =>
    scalarValue <|>
      (do char '['; return .array (← elements (valueOfDepth depth))) <|>
      (do char '\x7b'; return .table .braces (← bracedPairs (valueOfDepth depth)))
where
  /-- A value that holds no other values. -/
  scalarValue : Reader Value :=
    Value.string <$> text <|> datetime <|> float <|> integer <|>
      (do literal "true"; return .boolean true) <|>
      (do literal "false"; return .boolean false)

/-- A value. -/
def value : Reader Value := valueOfDepth (maxDepth - 1)

/-! ## Statements -/

/-- A header: the place of a table, or of an element of an array of tables. -/
structure Header where
  isElement : Bool
  path : List String
  key : String
  deriving DecidableEq, Repr

/-- What a line of a document says. -/
inductive Statement
  | pair (path : List String) (key : String) (value : Value)
  | header (h : Header)

/-- A line with a key and a value. -/
def pairLine : Reader Statement := do
  let (path, k) ← key
  char '='
  blanks
  let v ← value
  lineEnd
  return .pair path k v

/-- A line with the header of a table, or of an element of an array of tables. -/
def headerLine : Reader Statement :=
  (do
    literal "[["
    let (path, k) ← key
    literal "]]"
    lineEnd
    return .header ⟨true, path, k⟩) <|>
  (do
    char '['
    ahead (next (· != '['))
    let (path, k) ← key
    char ']'
    lineEnd
    return .header ⟨false, path, k⟩)

/-- A line of a document, if it says anything. -/
def line : Reader (Option Statement) := do
  let statement ←
    match ← peek with
    | some '#' | some '\n' | some '\r' => do lineEnd; pure none
    | some '[' => some <$> headerLine
    | _ => some <$> pairLine
  blanks
  return statement

/-- All statements of a document; a byte order mark may stand before them. -/
def statements : Reader (List Statement) := do
  let _ ← maybe (char '\ufeff')
  blanks
  let lines ← many line
  done
  return lines.filterMap id

/-! ## Carrying out -/

/-- The tables that are complete, and the one that the current lines belong to. That one is entered
when the next header, or the end, completes it; before the first header it is the whole document. -/
structure Builder where
  root : Entries := []
  current : Entries := []
  header? : Option Header := none

namespace Builder

/-- Enters the current table in its place. -/
def complete (b : Builder) : Option Entries :=
  match b.header? with
  | none => some b.current
  | some h =>
    let finished : Value := .table .header b.current
    let enter (_ : Origin) (inner : Entries) : Option (Unit × Entries) :=
      if h.isElement then
        match inner.lookup h.key with
        | some (.tables elements) =>
          some ((), inner.replace h.key (.tables (elements ++ [finished])))
        | _ => none
      else some ((), inner.add h.key finished)
    (b.root.modifyAt .implied enter h.path .header).map (·.2)

/-- Makes room for a new table, and gives what it already holds. A table that was only implied so
far is taken up; an element may follow other elements; nothing else may be there. -/
def makeRoom (h : Header) (_ : Origin) (inner : Entries) : Option (Entries × Entries) :=
  match h.isElement, inner.lookup h.key with
  | false, none => some ([], inner)
  | false, some (.table .implied held) => some (held, inner.remove h.key)
  | true, none => some ([], inner.add h.key (.tables []))
  | true, some (.tables _) => some ([], inner)
  | _, _ => none

/-- Carries out a statement. -/
def step (b : Builder) : Statement → Option Builder
  | .pair path key value => do
    return { b with current := ← b.current.insertAt path key value }
  | .header h => do
    let (current, root) ← (← b.complete).modifyAt .implied (makeRoom h) h.path .header
    return { root, current, header? := some h }

end Builder

/-- The contents of a list of statements. -/
def Entries.ofStatements (list : List Statement) : Option Entries := do
  let b ← list.foldlM Builder.step {}
  b.complete

/-- The contents of a document, or nothing where the text is none. -/
def parse? (s : String) : Option Entries := do
  let (list, _) ← statements s.toList
  Entries.ofStatements list

end ControlDeck.Toml
