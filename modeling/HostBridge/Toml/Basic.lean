import HostBridge.Number.Binary64

set_option autoImplicit false

namespace HostBridge

inductive TableKind where
  | header
  | implied
  | dotted
  | inline
deriving DecidableEq, Inhabited, Repr

inductive Toml where
  | string (s : String)
  | integer (i : Int)
  | float (x : Binary64)
  | boolean (b : Bool)
  | datetime
  | array (items : List Toml)
  | table (kind : TableKind) (entries : List (String × Toml))
  | tables (items : List Toml)
deriving Inhabited, Repr

namespace Toml

abbrev Entries := List (String × Toml)

def replace (key : String) (value : Toml) : Entries → Entries
  | [] => [(key, value)]
  | (other, held) :: rest =>
    if other = key then (key, value) :: rest else (other, held) :: replace key value rest

def define (key : String) (value : Toml) (entries : Entries) : Option Entries :=
  match entries.lookup key with
  | some _ => none
  | none => some (entries ++ [(key, value)])

-- Defines a key below others that a dotted key names. Tables on the way are made if they are
-- missing. The last one must have been made by a dotted key, and none may have a header or be a
-- value.
def defineDotted : List String → String → Toml → Entries → Option Entries
  | [], key, value, entries => define key value entries
  | step :: path, key, value, entries =>
    match entries.lookup step with
    | none => do
      let inner ← defineDotted path key value []
      some (entries ++ [(step, table .dotted inner)])
    | some (table .dotted inner) => do
      let inner ← defineDotted path key value inner
      some (replace step (table .dotted inner) entries)
    | some (table .implied inner) =>
      match path with
      | [] => none
      | _ => do
        let inner ← defineDotted path key value inner
        some (replace step (table .implied inner) entries)
    | some (tables items) =>
      match path, items.getLast? with
      | _ :: _, some (table kind inner) => do
        let inner ← defineDotted path key value inner
        some (replace step (tables (items.dropLast ++ [table kind inner])) entries)
      | _, _ => none
    | some _ => none

def descend : List String → (Entries → Option Entries) → Entries → Option Entries
  | [], change, entries => change entries
  | step :: path, change, entries =>
    match entries.lookup step with
    | none => do
      let inner ← descend path change []
      some (entries ++ [(step, table .implied inner)])
    | some (table .inline _) => none
    | some (table kind inner) => do
      let inner ← descend path change inner
      some (replace step (table kind inner) entries)
    | some (tables items) =>
      match items.getLast? with
      | some (table kind inner) => do
        let inner ← descend path change inner
        some (replace step (tables (items.dropLast ++ [table kind inner])) entries)
      | _ => none
    | some _ => none

def openTable (path : List String) (key : String) : Entries → Option Entries :=
  descend path fun entries =>
    match entries.lookup key with
    | none => some (entries ++ [(key, table .header [])])
    | some (table .implied inner) => some (replace key (table .header inner) entries)
    | some _ => none

def openNext (path : List String) (key : String) : Entries → Option Entries :=
  descend path fun entries =>
    match entries.lookup key with
    | none => some (entries ++ [(key, tables [table .header []])])
    | some (tables items) => some (replace key (tables (items ++ [table .header []])) entries)
    | some _ => none

end Toml

end HostBridge
