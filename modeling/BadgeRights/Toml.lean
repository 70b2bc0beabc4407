/-!
TOML documents. A table remembers how it came about, because that decides which later lines may add
to it: a header opens a table once, and a dotted key may only extend tables that dotted keys made.
-/

set_option autoImplicit false

namespace BadgeRights

namespace Toml

inductive Origin where
  | header
  | implied
  | dotted
  deriving DecidableEq

end Toml

inductive Toml where
  | text (value : String)
  | integer (value : Int)
  /-- A number with a fraction, a truth value, a date or a time. -/
  | scalar
  | array (items : List Toml)
  | inline (entries : List (String × Toml))
  | table (origin : Toml.Origin) (entries : List (String × Toml))
  /-- An array of tables, of which only the last one is open. -/
  | tables (closed : List Toml) (last : List (String × Toml))

namespace Toml

abbrev Entries := List (String × Toml)

def alter (key : String) (f : Option Toml → Option Toml) : Entries → Option Entries
  | [] => (f none).map fun v => [(key, v)]
  | (k, v) :: rest =>
      if k = key then (f (some v)).map fun w => (k, w) :: rest
      else (alter key f rest).map fun rest => (k, v) :: rest

/-- Goes down to the table at `path`, making the tables on the way that are missing, and changes its
entries. `made` is the origin of the tables on the way: dotted keys stop at tables with a header. -/
def changeAt (made : Origin) (change : Origin → Entries → Option Entries) :
    (path : List String) → Origin → Entries → Option Entries
  | [], origin, entries => change origin entries
  | key :: path, _, entries =>
      alter key
        (fun
          | none => (changeAt made change path made []).map (.table made)
          | some (.table origin inner) =>
              if made = .dotted ∧ origin = .header then none
              else (changeAt made change path origin inner).map (.table origin)
          | some (.tables closed last) =>
              (changeAt made change path .header last).map (.tables closed)
          | _ => none)
        entries

def addNew (key : String) (value : Toml) : Entries → Option Entries :=
  alter key fun
    | none => some value
    | some _ => none

def addAt (path : List String) (key : String) (value : Toml) (origin : Origin)
    (entries : Entries) : Option Entries :=
  changeAt .dotted
    (fun origin entries =>
      if (origin = .dotted) = (path ≠ []) then addNew key value entries else none)
    path origin entries

def openTable (path : List String) (key : String) (root : Entries) : Option Entries :=
  changeAt .implied
    (fun _ => alter key fun
      | none => some (.table .header [])
      | some (.table .implied entries) => some (.table .header entries)
      | _ => none)
    path .header root

def openItem (path : List String) (key : String) (root : Entries) : Option Entries :=
  changeAt .implied
    (fun _ => alter key fun
      | none => some (.tables [] [])
      | some (.tables closed last) => some (.tables (closed ++ [.table .header last]) [])
      | _ => none)
    path .header root

def addTo (current path : List String) (key : String) (value : Toml) (root : Entries) :
    Option Entries :=
  changeAt .implied (fun origin entries => addAt path key value origin entries) current .header
    root

def entries? : Toml → Option Entries
  | .inline entries | .table _ entries => some entries
  | _ => none

def isEmptyContainer : Toml → Bool
  | .array items => items.isEmpty
  | .inline entries | .table _ entries => entries.isEmpty
  | _ => false

end Toml

end BadgeRights
