import HostBridge.Config.Document
import Mathlib.Data.List.Nodup

set_option autoImplicit false

namespace HostBridge

def Toml.items? : Toml → Option (List Toml)
  | array items => some items
  | tables items => some items
  | _ => none

structure Setting (S : Type) where
  name : String
  Part : Type
  read : Toml → Option Part
  part : S → Part
  put : Part → S → S

namespace Setting

variable {S : Type} (p q : Setting S)

def entry : String × (Toml → S → Option S) := (p.name, fun v s => (p.read v).map (p.put · s))

def Shows (given : Option Toml) (standard s : S) : Prop :=
  match given with
  | none => p.part s = p.part standard
  | some v => p.read v = some (p.part s)

def Readable (given : Option Toml) : Prop := ∀ v, given = some v → ∃ x, p.read v = some x

def Ignores : Prop := ∀ x s, p.part (q.put x s) = p.part s

theorem Shows.readable {p : Setting S} {given : Option Toml} {standard s : S}
    (shows : p.Shows given standard s) : p.Readable given := by
  intro v there
  subst there
  exact ⟨p.part s, shows⟩

theorem Shows.of_same {p : Setting S} {given : Option Toml} {standard other s r : S}
    (shows : p.Shows given other s) (standards : p.part other = p.part standard)
    (same : p.part r = p.part s) : p.Shows given standard r := by
  cases given with
  | none =>
    have left : p.part s = p.part other := shows
    exact same.trans (left.trans standards)
  | some v =>
    have read : p.read v = some (p.part s) := shows
    exact read.trans (congrArg some same.symm)

theorem Shows.unique {p : Setting S} {given : Option Toml} {standard s r : S}
    (here : p.Shows given standard s) (there : p.Shows given standard r) :
    p.part s = p.part r := by
  cases given with
  | none =>
    have same : p.part r = p.part standard := there
    exact Eq.trans here same.symm
  | some v => exact Option.some.inj (Eq.trans (Eq.symm here) there)

end Setting

namespace Section

variable {S : Type} (t : Section S)

def names : List String := t.settings.map Prod.fst

def entries? : Option Toml → Option Toml.Entries
  | none => some []
  | some (.table _ entries) => some entries
  | some (.array items) => some (t.names.zip items)
  | some (.tables items) => some (t.names.zip items)
  | some .datetime => some []
  | some _ => none

inductive Alike : Option Toml → Option Toml → Prop
  | same (given : Option Toml) : Alike given given
  | undeclared (kind other : TableKind) (entries others : Toml.Entries)
      (agree : ∀ name ∈ t.names, entries.lookup name = others.lookup name) :
      Alike (some (.table kind entries)) (some (.table other others))
  | listed (array : Toml) (items : List Toml) (kind : TableKind)
      (lists : array.items? = some items) :
      Alike (some array) (some (.table kind (t.names.zip items)))

structure Declares (settings : List (Setting S)) : Prop where
  entries : t.settings = settings.map Setting.entry
  distinct : (settings.map Setting.name).Nodup
  held : ∀ p ∈ settings, ∀ x s, p.part (p.put x s) = x
  apart : settings.Pairwise fun p q => p.Ignores q ∧ q.Ignores p
  whole : ∀ s r : S, (∀ p ∈ settings, p.part s = p.part r) → s = r

def Shows (settings : List (Setting S)) (given : Option Toml) (standard s : S) : Prop :=
  ∃ entries, t.entries? given = some entries ∧
    ∀ p ∈ settings, p.Shows (entries.lookup p.name) standard s

def Fits (settings : List (Setting S)) (given : Option Toml) : Prop :=
  ∃ entries, t.entries? given = some entries ∧
    ∀ p ∈ settings, p.Readable (entries.lookup p.name)

section Taking

variable (takes : List (String × (Toml → S → Option S)))

def takeGiven (take : Toml → S → Option S) (s : S) : Option Toml → Option S
  | none => some s
  | some v => take v s

theorem take_named_cons (entries : Toml.Entries) (name : String) (take : Toml → S → Option S)
    (s : S) : takeNamed entries ((name, take) :: takes) s =
      (takeGiven take s (entries.lookup name)).bind (takeNamed entries takes) := by
  rw [takeNamed]
  cases entries.lookup name <;> rfl

theorem take_named_nothing (s : S) : takeNamed [] takes s = some s := by
  induction takes with
  | nil => rfl
  | cons head rest ih => exact ih

theorem take_named_congr (entries others : Toml.Entries)
    (agree : ∀ name ∈ takes.map Prod.fst, entries.lookup name = others.lookup name) (s : S) :
    takeNamed entries takes s = takeNamed others takes s := by
  induction takes generalizing s with
  | nil => rfl
  | cons head rest ih =>
    obtain ⟨name, take⟩ := head
    rw [List.map_cons, List.forall_mem_cons] at agree
    obtain ⟨here, beyond⟩ := agree
    have tails : takeNamed entries rest = takeNamed others rest := funext (ih beyond)
    rw [take_named_cons, take_named_cons, here, tails]

theorem take_listed_eq (distinct : (takes.map Prod.fst).Nodup) (items : List Toml) (s : S) :
    takeListed takes items s = takeNamed ((takes.map Prod.fst).zip items) takes s := by
  induction takes generalizing items s with
  | nil => cases items <;> rfl
  | cons head rest ih =>
    obtain ⟨name, take⟩ := head
    cases items with
    | nil => exact (take_named_nothing _ s).symm
    | cons v items =>
      rw [List.map_cons, List.nodup_cons] at distinct
      obtain ⟨fresh, distinct⟩ := distinct
      have others : ∀ other ∈ rest.map Prod.fst,
          List.lookup other ((name, v) :: (rest.map Prod.fst).zip items) =
            List.lookup other ((rest.map Prod.fst).zip items) := by
        intro other member
        have differ : other ≠ name := fun same => fresh (same ▸ member)
        rw [List.lookup_cons, beq_eq_false_iff_ne.2 differ]
      have tails : takeListed rest items =
          takeNamed ((name, v) :: (rest.map Prod.fst).zip items) rest := by
        funext taken
        exact (ih distinct items taken).trans (take_named_congr rest _ _ others taken).symm
      rw [List.map_cons, List.zip_cons_cons, take_named_cons, List.lookup_cons_self, ← tails]
      rfl

end Taking

theorem overlay_eq (distinct : t.names.Nodup) (standard : S) (given : Option Toml) :
    t.overlay standard given =
      (t.entries? given).bind fun entries => takeNamed entries t.settings standard := by
  cases given with
  | none => exact (take_named_nothing t.settings standard).symm
  | some v =>
    cases v with
    | array items => exact take_listed_eq t.settings distinct items standard
    | tables items => exact take_listed_eq t.settings distinct items standard
    | datetime => exact (take_named_nothing t.settings standard).symm
    | _ => rfl

theorem Alike.overlay {t : Section S} (distinct : t.names.Nodup) (standard : S)
    {given other : Option Toml} (alike : t.Alike given other) :
    t.overlay standard given = t.overlay standard other := by
  cases alike with
  | same => rfl
  | undeclared kind other entries others agree =>
    exact take_named_congr t.settings entries others agree standard
  | listed array items kind lists =>
    have same : t.entries? (some array) = some (t.names.zip items) := by
      cases array with
      | array held => exact congrArg (fun i => some (t.names.zip i)) (Option.some.inj lists)
      | tables held => exact congrArg (fun i => some (t.names.zip i)) (Option.some.inj lists)
      | _ => cases lists
    rw [t.overlay_eq distinct, same]
    rfl

section Settings

variable {entries : Toml.Entries} {settings : List (Setting S)} {s r : S}

theorem take_given_some (p : Setting S) (held : ∀ x s, p.part (p.put x s) = x)
    (given : Option Toml) (taken : takeGiven p.entry.2 s given = some r) :
    p.Shows given s r ∧ ∀ q : Setting S, q.Ignores p → q.part r = q.part s := by
  cases given with
  | none =>
    cases taken
    exact ⟨rfl, fun q ignores => rfl⟩
  | some v =>
    obtain ⟨x, read, rfl⟩ := Option.map_eq_some_iff.1 taken
    have shown : p.read v = some (p.part (p.put x s)) := by rw [read, held]
    exact ⟨shown, fun q ignores => ignores x s⟩

theorem take_given_of_readable (p : Setting S) (given : Option Toml) (readable : p.Readable given)
    (s : S) : ∃ r, takeGiven p.entry.2 s given = some r := by
  cases given with
  | none => exact ⟨s, rfl⟩
  | some v =>
    obtain ⟨x, read⟩ := readable v rfl
    exact ⟨p.put x s, Option.map_eq_some_iff.2 ⟨x, read, rfl⟩⟩

theorem take_named_some
    (held : ∀ p ∈ settings, ∀ x s, p.part (p.put x s) = x)
    (apart : settings.Pairwise fun p q => p.Ignores q ∧ q.Ignores p)
    (taken : takeNamed entries (settings.map Setting.entry) s = some r) :
    (∀ p ∈ settings, p.Shows (entries.lookup p.name) s r) ∧
      ∀ q : Setting S, (∀ p ∈ settings, q.Ignores p) → q.part r = q.part s := by
  induction settings generalizing s with
  | nil =>
    cases taken
    exact ⟨nofun, fun q ignores => rfl⟩
  | cons p rest ih =>
    rw [List.forall_mem_cons] at held
    rw [List.pairwise_cons] at apart
    rw [List.map_cons, Setting.entry, take_named_cons] at taken
    obtain ⟨next, first, taken⟩ := Option.bind_eq_some_iff.1 taken
    obtain ⟨shown, kept⟩ := take_given_some p held.1 _ first
    obtain ⟨others, left⟩ := ih held.2 apart.2 taken
    have same : p.part r = p.part next := left p fun q member => (apart.1 q member).1
    rw [List.forall_mem_cons]
    refine ⟨⟨shown.of_same rfl same, ?_⟩, ?_⟩
    · intro q member
      exact (others q member).of_same (kept q (apart.1 q member).2) rfl
    · intro q ignores
      rw [List.forall_mem_cons] at ignores
      exact (left q ignores.2).trans (kept q ignores.1)

theorem take_named_of_readable
    (readable : ∀ p ∈ settings, p.Readable (entries.lookup p.name)) (s : S) :
    ∃ r, takeNamed entries (settings.map Setting.entry) s = some r := by
  induction settings generalizing s with
  | nil => exact ⟨s, rfl⟩
  | cons p rest ih =>
    rw [List.forall_mem_cons] at readable
    obtain ⟨next, first⟩ := take_given_of_readable p _ readable.1 s
    obtain ⟨r, taken⟩ := ih readable.2 next
    refine ⟨r, ?_⟩
    rw [List.map_cons, Setting.entry, take_named_cons]
    exact Option.bind_eq_some_iff.2 ⟨next, first, taken⟩

end Settings

namespace Declares

variable {t} {settings : List (Setting S)} (declares : t.Declares settings)
  (given : Option Toml) (standard : S)

include declares

theorem names : t.names = settings.map Setting.name := by
  rw [Section.names, declares.entries, List.map_map]
  rfl

theorem names_distinct : t.names.Nodup := by
  rw [declares.names]
  exact declares.distinct

theorem unique {s r : S} (here : t.Shows settings given standard s)
    (there : t.Shows settings given standard r) : s = r := by
  obtain ⟨entries, known, shows⟩ := here
  obtain ⟨others, same, also⟩ := there
  obtain rfl : entries = others := Option.some.inj (known.symm.trans same)
  apply declares.whole
  intro p member
  exact (shows p member).unique (also p member)

theorem taken_of_readable {entries : Toml.Entries}
    (readable : ∀ p ∈ settings, p.Readable (entries.lookup p.name)) :
    ∃ s, takeNamed entries t.settings standard = some s ∧
      ∀ p ∈ settings, p.Shows (entries.lookup p.name) standard s := by
  obtain ⟨s, taken⟩ := take_named_of_readable readable standard
  have shows := (take_named_some declares.held declares.apart taken).1
  rw [← declares.entries] at taken
  exact ⟨s, taken, shows⟩

theorem overlay_iff (s : S) :
    t.overlay standard given = some s ↔ t.Shows settings given standard s := by
  rw [t.overlay_eq declares.names_distinct, Option.bind_eq_some_iff]
  constructor
  · intro ⟨entries, known, taken⟩
    rw [declares.entries] at taken
    exact ⟨entries, known, (take_named_some declares.held declares.apart taken).1⟩
  · intro ⟨entries, known, shows⟩
    obtain ⟨r, taken, also⟩ :=
      declares.taken_of_readable standard fun p member => (shows p member).readable
    have same : s = r := declares.unique given standard ⟨entries, known, shows⟩
      ⟨entries, known, also⟩
    rw [same]
    exact ⟨entries, known, taken⟩

theorem fits_iff : (∃ s, t.Shows settings given standard s) ↔ t.Fits settings given := by
  constructor
  · intro ⟨s, entries, known, shows⟩
    exact ⟨entries, known, fun p member => (shows p member).readable⟩
  · intro ⟨entries, known, readable⟩
    obtain ⟨s, _, shows⟩ := declares.taken_of_readable standard readable
    exact ⟨s, entries, known, shows⟩

end Declares

end Section

end HostBridge
