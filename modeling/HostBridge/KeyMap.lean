set_option autoImplicit false

namespace HostBridge

-- Entries in ascending order of their names; of entries under one name the map keeps one.
abbrev KeyMap (α : Type) := List (String × α)

namespace KeyMap

variable {α β : Type}

def Ascending (m : KeyMap α) : Prop := (m.map Prod.fst).Pairwise (· < ·)

def insert (name : String) (value : α) : KeyMap α → KeyMap α
  | [] => [(name, value)]
  | (other, held) :: rest =>
    if name < other then (name, value) :: (other, held) :: rest
    else if name = other then (name, value) :: rest
    else (other, held) :: insert name value rest

def ofList (entries : List (String × α)) : KeyMap α :=
  entries.foldl (fun m entry => insert entry.1 entry.2 m) []

def contains (m : KeyMap α) (name : String) : Bool := (m.lookup name).isSome

def keys (m : KeyMap α) : List String := m.map Prod.fst

theorem mem_keys_insert (name : String) (value : α) (m : KeyMap α) (key : String) :
    key ∈ (insert name value m).map Prod.fst ↔ key = name ∨ key ∈ m.map Prod.fst := by
  induction m with
  | nil => simp [insert]
  | cons entry rest ih =>
    obtain ⟨other, held⟩ := entry
    unfold insert
    split
    · simp
    · split
      · next same => subst same; simp
      · simp only [List.map_cons, List.mem_cons, ih]
        constructor
        · rintro (h | h | h) <;> simp [h]
        · rintro (h | h | h) <;> simp [h]

theorem insert_ascending (name : String) (value : α) (m : KeyMap α) (ascending : Ascending m) :
    Ascending (insert name value m) := by
  induction m with
  | nil => simp [insert, Ascending]
  | cons entry rest ih =>
    obtain ⟨other, held⟩ := entry
    simp only [Ascending, List.map_cons, List.pairwise_cons] at ascending
    obtain ⟨least, tail⟩ := ascending
    unfold insert
    split
    · next before =>
      simp only [Ascending, List.map_cons, List.pairwise_cons, List.mem_cons]
      refine ⟨?_, least, tail⟩
      rintro key (rfl | later)
      · exact before
      · exact String.lt_trans before (least key later)
    · split
      · next same =>
        subst same
        simp only [Ascending, List.map_cons, List.pairwise_cons]
        exact ⟨least, tail⟩
      · next notBefore notSame =>
        have after : other < name :=
          Decidable.byContradiction fun notAfter => notSame
            (String.le_antisymm (String.not_lt.1 notAfter) (String.not_lt.1 notBefore))
        simp only [Ascending, List.map_cons, List.pairwise_cons]
        refine ⟨?_, ih tail⟩
        intro key member
        rcases (mem_keys_insert name value rest key).1 member with rfl | later
        · exact after
        · exact least key later

theorem lookup_insert (name : String) (value : α) (m : KeyMap α) (key : String) :
    (insert name value m).lookup key = if key = name then some value else m.lookup key := by
  induction m with
  | nil =>
    by_cases same : key = name
    · simp [insert, same]
    · have differ : (key == name) = false := by simpa using same
      simp [insert, List.lookup_cons, same, differ]
  | cons entry rest ih =>
    obtain ⟨other, held⟩ := entry
    unfold insert
    split
    · by_cases same : key = name
      · simp [same]
      · have differ : (key == name) = false := by simpa using same
        simp [List.lookup_cons, same, differ]
    · split
      · next h =>
        subst h
        by_cases same : key = name
        · simp [same]
        · have differ : (key == name) = false := by simpa using same
          simp [List.lookup_cons, same, differ]
      · next notBefore notSame =>
        simp only [List.lookup_cons]
        by_cases hit : key = other
        · subst hit
          have other : ¬ key = name := fun same => notSame same.symm
          simp [other]
        · have differ : (key == other) = false := by simpa using hit
          simp [differ, ih]

theorem lookup_map (f : String → α → β) (m : KeyMap α) (key : String) :
    (m.map fun entry => (entry.1, f entry.1 entry.2)).lookup key = (m.lookup key).map (f key) := by
  induction m with
  | nil => rfl
  | cons entry rest ih =>
    rw [List.map_cons, List.lookup_cons, List.lookup_cons, ih]
    cases same : key == entry.1 with
    | false => rfl
    | true =>
      rw [beq_iff_eq.1 same]
      rfl

theorem lookup_filter (keep : String → Bool) (m : KeyMap α) (key : String)
    (kept : keep key = true) :
    (m.filter fun entry => keep entry.1).lookup key = m.lookup key := by
  induction m with
  | nil => rfl
  | cons entry rest ih =>
    by_cases same : key = entry.1
    · subst same
      rw [List.filter_cons, if_pos kept, List.lookup_cons_self, List.lookup_cons_self]
    · have differ : (key == entry.1) = false := beq_eq_false_iff_ne.2 same
      rw [List.filter_cons, List.lookup_cons, differ]
      split
      · rw [List.lookup_cons, differ, ih]
      · exact ih

theorem mem_insert (name : String) (value : α) (m : KeyMap α) (entry : String × α)
    (member : entry ∈ insert name value m) : entry = (name, value) ∨ entry ∈ m := by
  induction m with
  | nil => exact .inl (List.mem_singleton.1 member)
  | cons first rest ih =>
    obtain ⟨other, held⟩ := first
    rw [insert] at member
    split at member
    · exact List.mem_cons.1 member
    · split at member
      · exact (List.mem_cons.1 member).imp_right (List.mem_cons_of_mem _)
      · rcases List.mem_cons.1 member with rfl | later
        · exact .inr List.mem_cons_self
        · exact (ih later).imp_right (List.mem_cons_of_mem _)

theorem contains_iff (m : KeyMap α) (name : String) :
    m.contains name = true ↔ name ∈ m.map Prod.fst := by
  rw [contains, List.lookup_isSome_iff, List.mem_map]
  simp only [beq_iff_eq]
  exact exists_congr fun entry => and_congr_right fun _ => eq_comm

theorem mem_of_lookup (m : KeyMap α) (name : String) (value : α)
    (found : m.lookup name = some value) : (name, value) ∈ m := by
  obtain ⟨before, after, rfl, _⟩ := List.lookup_eq_some_iff.1 found
  exact List.mem_append_right before List.mem_cons_self

theorem Ascending.mem_before {before after : KeyMap α} {entry other : String × α}
    (sorted : Ascending (before ++ entry :: after)) (listed : other ∈ before ++ entry :: after)
    (less : other.1 < entry.1) : other ∈ before := by
  rw [Ascending, List.map_append, List.map_cons, List.pairwise_append,
    List.pairwise_cons] at sorted
  rw [List.mem_append, List.mem_cons] at listed
  rcases listed with earlier | rfl | later
  · exact earlier
  · exact absurd less (String.lt_irrefl _)
  · have greater : entry.1 < other.1 := sorted.2.1.1 other.1 (List.mem_map_of_mem later)
    exact absurd (String.lt_trans greater less) (String.lt_irrefl _)

section Entries

variable (entries : List (String × α))

theorem of_list_ascending : Ascending (ofList entries) := by
  have fold : ∀ m : KeyMap α, Ascending m →
      Ascending (entries.foldl (fun m e => insert e.1 e.2 m) m) := by
    induction entries with
    | nil => exact fun m => id
    | cons first rest ih => exact fun m sorted => ih _ (insert_ascending first.1 first.2 m sorted)
  exact fold [] List.Pairwise.nil

theorem mem_of_list (entry : String × α) (member : entry ∈ ofList entries) :
    entry ∈ entries := by
  have fold : ∀ m : KeyMap α, entry ∈ entries.foldl (fun m e => insert e.1 e.2 m) m →
      entry ∈ entries ∨ entry ∈ m := by
    clear member
    induction entries with
    | nil => exact fun m => .inr
    | cons first rest ih =>
      intro m inside
      rcases ih _ inside with later | before
      · exact .inl (List.mem_cons_of_mem _ later)
      · rcases mem_insert _ _ m entry before with rfl | held
        · exact .inl List.mem_cons_self
        · exact .inr held
  exact (fold [] member).resolve_right List.not_mem_nil

variable (distinct : (entries.map Prod.fst).Nodup)
include distinct

theorem lookup_of_mem (name : String) (value : α) (member : (name, value) ∈ entries) :
    entries.lookup name = some value := by
  induction entries with
  | nil => cases member
  | cons first rest ih =>
    obtain ⟨fresh, others⟩ := List.nodup_cons.1 distinct
    rcases List.mem_cons.1 member with rfl | later
    · simp
    · have differ : (name == first.1) = false := by
        refine beq_eq_false_iff_ne.2 fun same => fresh ?_
        exact same ▸ List.mem_map_of_mem later
      rw [List.lookup_cons, differ]
      exact ih others later

theorem lookup_of_list (key : String) : (ofList entries).lookup key = entries.lookup key := by
  have fold : ∀ m : KeyMap α, (entries.foldl (fun m e => insert e.1 e.2 m) m).lookup key =
      (entries.lookup key).or (m.lookup key) := by
    induction entries with
    | nil => exact fun m => rfl
    | cons first rest ih =>
      intro m
      obtain ⟨fresh, others⟩ := List.nodup_cons.1 distinct
      rw [List.foldl_cons, ih others, lookup_insert, List.lookup_cons]
      by_cases same : key = first.1
      · subst same
        have alone : rest.lookup first.1 = none := by
          refine List.lookup_eq_none_iff.2 fun entry member => bne_iff_ne.2 fun equal => fresh ?_
          exact equal ▸ List.mem_map_of_mem member
        simp [alone]
      · have differ : (key == first.1) = false := beq_eq_false_iff_ne.2 same
        simp [same, differ]
  exact (fold []).trans Option.or_none

theorem contains_of_list (name : String) :
    contains (ofList entries) name = true ↔ name ∈ entries.map Prod.fst := by
  rw [← contains_iff, contains, contains, lookup_of_list entries distinct]

end Entries

end KeyMap

end HostBridge
