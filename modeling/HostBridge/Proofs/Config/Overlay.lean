import HostBridge.Proofs.Bridge.Tables
import HostBridge.Proofs.Config.Section

set_option autoImplicit false

namespace HostBridge

namespace Toml

def natural? : Toml → Option Nat
  | integer i => if 0 ≤ i then some i.toNat else none
  | _ => none

def text? : Toml → Option String
  | string s => some s
  | _ => none

def flag? : Toml → Option Bool
  | boolean b => some b
  | _ => none

def isCompound : Toml → Bool
  | table _ _ => true
  | array _ => true
  | tables _ => true
  | _ => false

end Toml

def PoolConfig.members : List (Setting PoolConfig) := [
  ⟨"workers", Nat, Toml.natural?, workers, fun n s => { s with workers := n }⟩,
  ⟨"queue_capacity", Nat, Toml.natural?, queueCapacity,
    fun n s => { s with queueCapacity := n }⟩,
  ⟨"thread_name", String, Toml.text?, threadName, fun name s => { s with threadName := name }⟩]

def LoggingConfig.members : List (Setting LoggingConfig) := [
  ⟨"filter", String, Toml.text?, filter, fun text s => { s with filter := text }⟩,
  ⟨"ansi", Bool, Toml.flag?, ansi, fun flag s => { s with ansi := flag }⟩]

section Entries

variable {S : Type} (name : String)

theorem natural_entry (part : S → Nat) (put : Nat → S → S) :
    (name, fun (v : Toml) (s : S) =>
      match v with
      | .integer i => if 0 ≤ i then some (put i.toNat s) else none
      | _ => none) = Setting.entry ⟨name, Nat, Toml.natural?, part, put⟩ := by
  apply congrArg (Prod.mk name)
  funext v s
  cases v with
  | integer i => by_cases least : 0 ≤ i <;> simp [Toml.natural?, least]
  | _ => rfl

theorem text_entry (part : S → String) (put : String → S → S) :
    (name, fun (v : Toml) (s : S) =>
      match v with
      | .string text => some (put text s)
      | _ => none) = Setting.entry ⟨name, String, Toml.text?, part, put⟩ := by
  apply congrArg (Prod.mk name)
  funext v s
  cases v <;> rfl

theorem flag_entry (part : S → Bool) (put : Bool → S → S) :
    (name, fun (v : Toml) (s : S) =>
      match v with
      | .boolean flag => some (put flag s)
      | _ => none) = Setting.entry ⟨name, Bool, Toml.flag?, part, put⟩ := by
  apply congrArg (Prod.mk name)
  funext v s
  cases v <;> rfl

end Entries

theorem PoolConfig.declares : PoolConfig.section.Declares members where
  entries :=
    congrArg₂ List.cons
      (natural_entry "workers" workers fun n s => { s with workers := n })
      (congrArg₂ List.cons
        (natural_entry "queue_capacity" queueCapacity fun n s => { s with queueCapacity := n })
        (congrArg₂ List.cons
          (text_entry "thread_name" threadName fun name s => { s with threadName := name }) rfl))
  distinct := by decide
  held := by simp [members]
  apart := by simp [members, Setting.Ignores]
  whole s r same := by
    obtain ⟨workers, capacity, name⟩ := s
    simp only [members, List.forall_mem_cons] at same
    obtain ⟨rfl, rfl, rfl, -⟩ := same
    rfl

theorem LoggingConfig.declares : LoggingConfig.section.Declares members where
  entries :=
    congrArg₂ List.cons (text_entry "filter" filter fun text s => { s with filter := text })
      (congrArg₂ List.cons (flag_entry "ansi" ansi fun flag s => { s with ansi := flag }) rfl)
  distinct := by decide
  held := by simp [members]
  apart := by simp [members, Setting.Ignores]
  whole s r same := by
    obtain ⟨filter, ansi⟩ := s
    simp only [members, List.forall_mem_cons] at same
    obtain ⟨rfl, rfl, -⟩ := same
    rfl

namespace Config

variable (entries : Toml.Entries)

structure Fits : Prop where
  pool : PoolConfig.section.Fits PoolConfig.members (entries.lookup "pool")
  logging : LoggingConfig.section.Fits LoggingConfig.members (entries.lookup "logging")

structure Overlaid (c : Config) : Prop where
  pool : PoolConfig.section.Shows PoolConfig.members (entries.lookup "pool") .standard c.pool
  logging : LoggingConfig.section.Shows LoggingConfig.members (entries.lookup "logging") .standard
    c.logging

theorem of_entries_iff (c : Config) : ofEntries? entries = some c ↔ Overlaid entries c := by
  have pool := PoolConfig.declares.overlay_iff (entries.lookup "pool") .standard
  have logging := LoggingConfig.declares.overlay_iff (entries.lookup "logging") .standard
  constructor
  · intro made
    obtain ⟨p, taken, made⟩ := Option.bind_eq_some_iff.1 made
    obtain ⟨l, also, made⟩ := Option.bind_eq_some_iff.1 made
    cases made
    exact ⟨(pool p).1 taken, (logging l).1 also⟩
  · intro overlaid
    have taken := (pool c.pool).2 overlaid.pool
    have also := (logging c.logging).2 overlaid.logging
    rw [ofEntries?, taken, also]
    rfl

theorem overlaid_iff_fits : (∃ c, Overlaid entries c) ↔ Fits entries := by
  have pool := PoolConfig.declares.fits_iff (entries.lookup "pool") .standard
  have logging := LoggingConfig.declares.fits_iff (entries.lookup "logging") .standard
  constructor
  · intro ⟨c, overlaid⟩
    exact ⟨pool.1 ⟨_, overlaid.pool⟩, logging.1 ⟨_, overlaid.logging⟩⟩
  · intro fits
    obtain ⟨p, shown⟩ := pool.2 fits.pool
    obtain ⟨l, also⟩ := logging.2 fits.logging
    exact ⟨⟨p, l⟩, shown, also⟩

theorem of_entries_none_iff : ofEntries? entries = none ↔ ¬ Fits entries := by
  rw [← overlaid_iff_fits, Option.eq_none_iff_forall_ne_some, not_exists]
  exact forall_congr' fun c => not_congr (of_entries_iff entries c)

theorem of_entries_alike {entries others : Toml.Entries}
    (pools : PoolConfig.section.Alike (entries.lookup "pool") (others.lookup "pool"))
    (loggings : LoggingConfig.section.Alike (entries.lookup "logging")
      (others.lookup "logging")) : ofEntries? others = ofEntries? entries := by
  have pool := pools.overlay PoolConfig.declares.names_distinct .standard
  have logging := loggings.overlay LoggingConfig.declares.names_distinct .standard
  rw [ofEntries?, ofEntries?, pool, logging]

structure Determined : Prop where
  stands : (∃ c, Overlaid entries c) ↔ Fits entries
  sole : ∀ c d, Overlaid entries c → Overlaid entries d → c = d

theorem determined : Determined entries where
  stands := overlaid_iff_fits entries
  sole c d here there := by
    have made := (of_entries_iff entries c).2 here
    exact Option.some.inj (made.symm.trans ((of_entries_iff entries d).2 there))

theorem validated (c : Config) :
    c.validate = .ok () ∨ ∃ reason, c.validate = .error (.invalid reason) := by
  rw [validate]
  cases c.fault? with
  | none => exact Or.inl rfl
  | some reason => exact Or.inr ⟨reason, rfl⟩

theorem of_text_eq {text : String} {entries : Toml.Entries}
    (read : Toml.parse? text = some entries) :
    ofText text =
      (ofEntries? entries).elim (.error .malformed) fun c => c.validate.map fun _ => c := by
  rw [ofText, read, Option.bind_some]
  cases ofEntries? entries with
  | none => rfl
  | some c =>
    rw [Option.elim_some, validate]
    cases fault : c.fault? with
    | none => simp only [fault, Except.map]
    | some reason => simp only [fault, Except.map]

/-- What becomes of a document, given as its entries. The settings that it stands for are only
looked at if the document itself is in order. -/
structure LaidOver (result : Except ConfigError Config) : Prop where
  accepted : ∀ c, result = .ok c ↔ Overlaid entries c ∧ c.validate = .ok ()
  malformed : result = .error .malformed ↔ ¬ Fits entries
  invalid : ∀ reason, result = .error (.invalid reason) ↔
    ∃ c, Overlaid entries c ∧ c.validate = .error (.invalid reason)

theorem LaidOver.of_none (made : ofEntries? entries = none) :
    LaidOver entries (.error .malformed) := by
  have unfit := (of_entries_none_iff entries).1 made
  have nothing : ∀ c, ¬ Overlaid entries c := by
    intro c overlaid
    exact unfit ((overlaid_iff_fits entries).1 ⟨c, overlaid⟩)
  constructor
  case accepted => simp [nothing]
  case malformed => simp [unfit]
  case invalid => simp [nothing]

theorem LaidOver.of_some (c : Config) (made : ofEntries? entries = some c) :
    LaidOver entries (c.validate.map fun _ => c) := by
  have only : ∀ d, Overlaid entries d ↔ d = c := by
    intro d
    rw [← of_entries_iff, made, Option.some.injEq, eq_comm]
  have fits : Fits entries := (overlaid_iff_fits entries).1 ⟨c, (only c).2 rfl⟩
  rcases c.validated with valid | ⟨fault, invalid⟩
  · rw [valid]
    constructor
    case accepted =>
      intro d
      rw [only]
      constructor
      · intro same
        cases same
        exact ⟨rfl, valid⟩
      · intro ⟨same, _⟩
        exact congrArg Except.ok same.symm
    case malformed => simp [Except.map, fits]
    case invalid => simp [Except.map, only, valid]
  · rw [invalid]
    constructor
    case accepted => simp [Except.map, only, invalid]
    case malformed => simp [Except.map, fits]
    case invalid => simp [Except.map, only, invalid]

theorem of_text_laid_over {text : String} (read : Toml.parse? text = some entries) :
    LaidOver entries (ofText text) := by
  rw [of_text_eq read]
  cases made : ofEntries? entries with
  | none => exact LaidOver.of_none entries made
  | some c => exact LaidOver.of_some entries c made

end Config

structure Config.Checked (c : Config) : Prop where
  refused : ∀ {α ε : Type} (processors : Nat) (modules : List (Module α ε)) (reason : String),
    Bridge.build c processors modules = .error (.config reason) ↔
      c.validate = .error (.invalid reason)
  accepted : ∀ {α ε : Type} (processors : Nat) (modules : List (Module α ε)),
    (∀ reason, Bridge.build c processors modules ≠ .error (.config reason)) ↔
      c.validate = .ok ()

theorem Config.checked (c : Config) : c.Checked := by
  have refused : ∀ {α ε : Type} (processors : Nat) (modules : List (Module α ε))
      (reason : String), Bridge.build c processors modules = .error (.config reason) ↔
        c.validate = .error (.invalid reason) := by
    intro α ε processors modules reason
    rw [Bridge.build_error_iff, Config.validate]
    cases c.fault? <;> simp [eq_comm]
  constructor
  case refused => exact refused
  case accepted =>
    intro α ε processors modules
    simp only [ne_eq, refused]
    rcases c.validated with valid | ⟨reason, invalid⟩
    · simp [valid]
    · simp [invalid]

namespace Config

theorem of_text_read {text : String} {c : Config} (read : (ofText text).toOption = some c) :
    ofText text = .ok c := by
  cases result : ofText text with
  | error e =>
    rw [result] at read
    cases read
  | ok d =>
    rw [result] at read
    cases read
    rfl

theorem settings_are_laid_over_the_standard (text : String) (entries : Toml.Entries)
    (read : Toml.parse? text = some entries) :
    Determined entries ∧ LaidOver entries (ofText text) ∧
      (∀ other others, Toml.parse? other = some others →
        PoolConfig.section.Alike (entries.lookup "pool") (others.lookup "pool") →
        LoggingConfig.section.Alike (entries.lookup "logging") (others.lookup "logging") →
        ofText other = ofText text) ∧
      ∀ c : Config, c.Checked := by
  refine ⟨determined entries, of_text_laid_over entries read, ?_, checked⟩
  intro other others also pools loggings
  rw [of_text_eq read, of_text_eq also, of_entries_alike pools loggings]

def mixedText : String := "pool = [3]\nother = 1\nlogging = \x7bansi = true, level = 2\x7d"

def mixedSettings : Config := ⟨⟨3, 256, "adbridge-io"⟩, ⟨"info", true⟩⟩

theorem mixed_sections_are_laid_over : ∃ entries, Toml.parse? mixedText = some entries ∧
    Overlaid entries mixedSettings ∧ mixedSettings.Checked := by
  have given : (Toml.parse? mixedText).isSome = true := by decide +kernel
  have result : (ofText mixedText).toOption = some mixedSettings := by decide +kernel
  obtain ⟨entries, read⟩ := Option.isSome_iff_exists.1 given
  obtain ⟨_, laid, _, checks⟩ := settings_are_laid_over_the_standard mixedText entries read
  have overlaid := ((laid.accepted mixedSettings).1 (of_text_read result)).1
  exact ⟨entries, read, overlaid, checks mixedSettings⟩

-- A date is neither a table nor an array, and still it is accepted as a section.
def datedText : String := "pool=1979-05-27"

theorem dated_section_is_accepted : ∃ entries v, Toml.parse? datedText = some entries ∧
    entries.lookup "pool" = some v ∧ v.isCompound = false ∧
      ofText datedText = .ok .standard := by
  have given : ((Toml.parse? datedText).bind (List.lookup "pool")).map Toml.isCompound =
      some false := by decide +kernel
  have result : (ofText datedText).toOption = some .standard := by decide +kernel
  obtain ⟨v, found, simple⟩ := Option.map_eq_some_iff.1 given
  obtain ⟨entries, read, held⟩ := Option.bind_eq_some_iff.1 found
  exact ⟨entries, v, read, held, simple, of_text_read result⟩

end Config

end HostBridge
