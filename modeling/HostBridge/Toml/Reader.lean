import HostBridge.Toml.Number
import HostBridge.Toml.Text

set_option autoImplicit false

namespace HostBridge.Toml

def skipLines : Nat → List Char → List Char
  | 0, cs => cs
  | fuel + 1, cs =>
    let rest := skipSpace cs
    match newline? (skipComment rest) with
    | some rest => skipLines fuel rest
    | none => rest

mutual

def readValue : Nat → Nat → List Char → Option (Toml × List Char)
  | 0, _, _ => none
  | fuel + 1, depth, cs =>
    match cs with
    | '[' :: rest =>
      match depth with
      | 0 => none
      | depth + 1 => do
        let (items, rest) ← readItems fuel depth rest
        some (array items, rest)
    | '\x7b' :: rest =>
      match depth with
      | 0 => none
      | depth + 1 =>
        match skipSpace rest with
        | '\x7d' :: rest => some (table .inline [], rest)
        | rest => do
          let (entries, rest) ← readEntries fuel depth [] rest
          some (table .inline entries, rest)
    | 't' :: 'r' :: 'u' :: 'e' :: rest => some (boolean true, rest)
    | 'f' :: 'a' :: 'l' :: 's' :: 'e' :: rest => some (boolean false, rest)
    | c :: _ =>
      if c == '"' || c == '\'' then (readString cs).map fun (s, rest) => (string s, rest)
      else readNumber cs
    | [] => none

def readItems : Nat → Nat → List Char → Option (List Toml × List Char)
  | 0, _, _ => none
  | fuel + 1, depth, cs =>
    match skipLines cs.length cs with
    | ']' :: rest => some ([], rest)
    | rest => do
      let (item, rest) ← readValue fuel depth rest
      match skipLines rest.length rest with
      | ',' :: rest =>
        let (items, rest) ← readItems fuel depth rest
        some (item :: items, rest)
      | ']' :: rest => some ([item], rest)
      | _ => none

def readEntries : Nat → Nat → Entries → List Char → Option (Entries × List Char)
  | 0, _, _, _ => none
  | fuel + 1, depth, entries, cs => do
    let (path, key, rest) ← readKey cs
    let rest ← expect '=' rest
    let (value, rest) ← readValue fuel depth (skipSpace rest)
    let entries ← defineDotted path key value entries
    match skipSpace rest with
    | ',' :: rest => readEntries fuel depth entries rest
    | '\x7d' :: rest => some (entries, rest)
    | _ => none

end

structure Draft where
  entries : Entries
  header : Option (List String × String)

namespace Draft

def define (d : Draft) (path : List String) (key : String) (value : Toml) : Option Draft := do
  let change := defineDotted path key value
  let entries ← match d.header with
    | none => change d.entries
    | some (above, name) => descend (above ++ [name]) change d.entries
  some { d with entries := entries }

end Draft

def readHeader (d : Draft) (cs : List Char) : Option (Draft × List Char) :=
  match cs with
  | '[' :: rest => do
    let (path, key, rest) ← readKey rest
    let rest ← expect ']' rest
    let rest ← expect ']' rest
    let rest ← lineEnd? rest
    let entries ← openNext path key d.entries
    some (⟨entries, some (path, key)⟩, rest)
  | rest => do
    let (path, key, rest) ← readKey rest
    let rest ← expect ']' rest
    let rest ← lineEnd? rest
    let entries ← openTable path key d.entries
    some (⟨entries, some (path, key)⟩, rest)

def readDefinition (d : Draft) (cs : List Char) : Option (Draft × List Char) := do
  let (path, key, rest) ← readKey cs
  let rest ← expect '=' rest
  let rest := skipSpace rest
  let (value, rest) ← readValue (rest.length + 1) (depthLimit - 1) rest
  let rest ← lineEnd? rest
  let d ← d.define path key value
  some (d, rest)

def readExpressions : Nat → Draft → List Char → Option Draft
  | 0, _, _ => none
  | fuel + 1, d, cs =>
    match skipSpace cs with
    | [] => some d
    | '[' :: rest => do
      let (d, rest) ← readHeader d rest
      readExpressions fuel d rest
    | c :: rest =>
      if c == '#' || c == '\n' || c == '\r' then do
        let rest ← lineEnd? (c :: rest)
        readExpressions fuel d rest
      else do
        let (d, rest) ← readDefinition d (c :: rest)
        readExpressions fuel d rest

def parse? (text : String) : Option Entries :=
  let cs := match text.toList with
    | '\ufeff' :: rest => rest
    | cs => cs
  (readExpressions (cs.length + 1) ⟨[], none⟩ cs).map Draft.entries

end HostBridge.Toml
