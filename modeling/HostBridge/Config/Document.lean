import HostBridge.Config.Basic
import HostBridge.Toml.Reader

set_option autoImplicit false

namespace HostBridge

structure Section (S : Type) where
  settings : List (String × (Toml → S → Option S))

namespace Section

variable {S : Type}

def takeNamed (entries : Toml.Entries) : List (String × (Toml → S → Option S)) → S → Option S
  | [], s => some s
  | (name, take) :: rest, s =>
    match entries.lookup name with
    | none => takeNamed entries rest s
    | some v => do takeNamed entries rest (← take v s)

def takeListed : List (String × (Toml → S → Option S)) → List Toml → S → Option S
  | (_, take) :: rest, v :: items, s => do takeListed rest items (← take v s)
  | _, _, s => some s

-- The settings of a section that a document may give. A date holds no declared setting.
def overlay (t : Section S) (standard : S) : Option Toml → Option S
  | none => some standard
  | some (.table _ entries) => takeNamed entries t.settings standard
  | some .datetime => some standard
  | some (.array items) => takeListed t.settings items standard
  | some (.tables items) => takeListed t.settings items standard
  | some _ => none

end Section

def PoolConfig.section : Section PoolConfig where
  settings := [
    ("workers", fun v s =>
      match v with
      | .integer i => if 0 ≤ i then some { s with workers := i.toNat } else none
      | _ => none),
    ("queue_capacity", fun v s =>
      match v with
      | .integer i => if 0 ≤ i then some { s with queueCapacity := i.toNat } else none
      | _ => none),
    ("thread_name", fun v s =>
      match v with
      | .string name => some { s with threadName := name }
      | _ => none)]

def LoggingConfig.section : Section LoggingConfig where
  settings := [
    ("filter", fun v s =>
      match v with
      | .string filter => some { s with filter := filter }
      | _ => none),
    ("ansi", fun v s =>
      match v with
      | .boolean ansi => some { s with ansi := ansi }
      | _ => none)]

namespace Config

def ofEntries? (entries : Toml.Entries) : Option Config := do
  let pool ← PoolConfig.section.overlay .standard (entries.lookup "pool")
  let logging ← LoggingConfig.section.overlay .standard (entries.lookup "logging")
  some ⟨pool, logging⟩

def ofText (text : String) : Except ConfigError Config :=
  match (Toml.parse? text).bind ofEntries? with
  | none => .error .malformed
  | some c =>
    match c.fault? with
    | some reason => .error (.invalid reason)
    | none => .ok c

def ofFile (bytes : Option ByteArray) : Except ConfigError Config :=
  match bytes.bind String.fromUTF8? with
  | none => .error .unreadable
  | some text => ofText text

end Config

end HostBridge
