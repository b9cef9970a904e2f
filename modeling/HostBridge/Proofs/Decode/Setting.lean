import HostBridge.Proofs.Decode.Stages

set_option autoImplicit false

namespace HostBridge

namespace KeyMap

variable {α : Type} (m : KeyMap α) (name : String)

def without : KeyMap α := m.filter fun entry => entry.1 != name

theorem lookup_without_self : (m.without name).lookup name = none := by
  apply List.lookup_eq_none_iff.2
  intro entry member
  have differs : entry.1 ≠ name := bne_iff_ne.1 (List.mem_filter.1 member).2
  exact bne_iff_ne.2 differs.symm

theorem lookup_without (key : String) (differs : key ≠ name) :
    (m.without name).lookup key = m.lookup key :=
  lookup_filter (· != name) m key (bne_iff_ne.2 differs)

end KeyMap

namespace Value

variable (fields : KeyMap Value) (name : String)

theorem lookup_defined (v : Value) (held : fields.lookup name = some v)
    (present : v.isUndefined = false) : (defined fields).lookup name = some v := by
  induction fields with
  | nil => cases held
  | cons entry rest ih =>
    rw [defined, List.filter_cons]
    by_cases same : name = entry.1
    · subst same
      rw [List.lookup_cons_self] at held
      cases held
      simp only [present, Bool.not_false, if_true]
      exact List.lookup_cons_self
    · have differ : (name == entry.1) = false := beq_eq_false_iff_ne.2 same
      rw [List.lookup_cons, differ] at held
      split
      · rw [List.lookup_cons, differ]
        exact ih held
      · exact ih held

theorem defined_without : defined (fields.without name) = (defined fields).without name :=
  List.filter_comm _ _ _

theorem view_of_held (v : Value) (held : fields.lookup name = some v)
    (present : v.isUndefined = false) :
    KeyMap.view (fieldsToJson fields) name = some v.toJson := by
  rw [view_to_json, shown?, lookup_defined fields name v held present]
  rfl

theorem view_without_self : KeyMap.view (fieldsToJson (fields.without name)) name = none := by
  rw [view_to_json, shown?, defined_without, KeyMap.lookup_without_self]
  rfl

theorem view_without (key : String) (differs : key ≠ name) :
    KeyMap.view (fieldsToJson fields) key =
      KeyMap.view (fieldsToJson (fields.without name)) key := by
  rw [view_to_json, view_to_json, shown?, shown?, defined_without,
    KeyMap.lookup_without _ name key differs]

end Value

structure Member.Sets {R : Type} (p : Member R) (members : List (Member R))
    (set : p.Part → R → R) : Prop where
  declared : p ∈ members
  isSpare : p.isRequired = false
  distinct : (members.map Member.name).Nodup
  held : ∀ v r, p.part (set v r) = v
  kept : ∀ q ∈ members, q.name ≠ p.name → ∀ v r, q.part (set v r) = q.part r

def Arguments.report {T : Type} (index : Nat) : Except DecodeError T → Except Failure T
  | .ok x => .ok x
  | .error e => .error (.invalidOptions s!"argument {index}: {e.message}")

theorem Arguments.report_ok_iff {T : Type} (index : Nat) (found : Except DecodeError T) (x : T) :
    report index found = .ok x ↔ found = .ok x := by
  cases found <;> simp [report]

theorem Arguments.decode_reported {T : Type} [Decodable T] {args : Arguments} {index : Nat}
    (fields : KeyMap Value) (given : args[index]? = some (.object fields)) :
    args.decode T index = report index (Decodable.decode (Value.fieldsToJson fields)) := by
  rw [decode_given fields given]
  cases Decodable.decode (T := T) (Value.fieldsToJson fields) <;> rfl

namespace Member.Sets

section Decoding

variable {R : Type} {p : Member R} {set : p.Part → R → R} {stages : List (List (Member R))}
  {decode : KeyMap Json → Except DecodeError R} {blank : R}
  (sets : p.Sets stages.flatten set) (staged : Staged decode blank stages) {m n : KeyMap Json}
  (same : ∀ name, name ≠ p.name → m.view name = n.view name)

include sets

theorem alone (q : Member R) (member : q ∈ stages.flatten) (same : q.name = p.name) : q = p :=
  List.inj_on_of_nodup_map sets.distinct member sets.declared same

theorem never_lacks (view : String → Option Json) : ¬ p.Lacks view := by
  intro lacks
  cases sets.isSpare.symm.trans lacks.1

theorem sound_here (view : String → Option Json) (v : p.Part) (r : R) :
    p.Reads view blank (set v r) ∧ ¬ p.Lacks view ↔
      p.codec.Reads (view p.name) (p.part blank) v := by
  rw [Member.Reads, sets.held]
  exact and_iff_left (sets.never_lacks view)

theorem sound_elsewhere {view other : String → Option Json} (q : Member R)
    (member : q ∈ stages.flatten) (differs : q.name ≠ p.name)
    (same : view q.name = other q.name) (v : p.Part) (r : R) :
    q.Reads view blank (set v r) ∧ ¬ q.Lacks view ↔ q.Reads other blank r ∧ ¬ q.Lacks other := by
  have alike : q.Alike view other := .inl same
  rw [alike.reads_iff, alike.lacks_iff, Member.Reads, Member.Reads, sets.kept q member differs]

include staged same

theorem decode_without (hidden : n.view p.name = none) (r : R) (read : decode m = .ok r) :
    ∃ rest, decode n = .ok rest := by
  refine ⟨set (p.part blank) r, (staged.ok_iff n _).2 fun q member => ?_⟩
  by_cases here : q.name = p.name
  · obtain rfl := sets.alone q member here
    apply (sets.sound_here n.view _ r).2
    rw [hidden]
    rfl
  · apply (sets.sound_elsewhere q member here (same q.name here).symm _ r).2
    exact (staged.ok_iff m r).1 read q member

section Shown

variable {j : Json} (shown : m.view p.name = some j) (rest : R) (others : decode n = .ok rest)

include shown others

theorem decode_set (v : p.Part) (read : p.codec.decode j = .ok v) :
    decode m = .ok (set v rest) := by
  apply (staged.ok_iff m _).2
  intro q member
  by_cases here : q.name = p.name
  · obtain rfl := sets.alone q member here
    apply (sets.sound_here m.view v rest).2
    rw [shown]
    exact read
  · apply (sets.sound_elsewhere q member here (same q.name here) v rest).2
    exact (staged.ok_iff n rest).1 others q member

theorem decode_refused (e : DecodeError) (refused : p.codec.decode j = .error e) :
    decode m = .error e := by
  cases decoded : decode m with
  | ok x =>
    have reads := ((staged.ok_iff m x).1 decoded p sets.declared).1
    simp only [Member.Reads, Codec.Reads, shown, refused, reduceCtorEq] at reads
  | error other =>
    obtain ⟨q, member, blamed⟩ := ((staged.error_iff m other).1 decoded).blames
    by_cases here : q.name = p.name
    · obtain rfl := sets.alone q member here
      obtain ⟨k, found, failed⟩ := blamed.resolve_right (sets.never_lacks _)
      cases shown.symm.trans found
      cases refused.symm.trans failed
      rfl
    · obtain ⟨reads, complete⟩ := (staged.ok_iff n rest).1 others q member
      have seen := same q.name here
      rcases blamed with ⟨k, found, failed⟩ | lacks
      · simp only [Member.Reads, Codec.Reads, ← seen, found, failed, reduceCtorEq] at reads
      · exact absurd ⟨lacks.1, seen ▸ lacks.2⟩ complete

theorem decode_rest : decode m = (p.codec.decode j).map (set · rest) := by
  cases read : p.codec.decode j with
  | ok v => exact sets.decode_set staged same shown rest others v read
  | error e => exact sets.decode_refused staged same shown rest others e read

end Shown

end Decoding

section Reading

variable {T : Type} [Decodable T] {p : Member T} {set : p.Part → T → T}
  {stages : List (List (Member T))} (sets : p.Sets stages.flatten set)
  (staged : Staged (Decodable.decode (T := T)) Decodable.blank stages) {args : Arguments}
  {index : Nat} (fields : KeyMap Value) (given : args[index]? = some (.object fields))

include sets staged given

theorem read_rest (v : Value) (held : fields.lookup p.name = some v)
    (present : v.isUndefined = false) (rest : T)
    (others : Arguments.decode T [.object (fields.without p.name)] 0 = .ok rest) :
    args.decode T index = Arguments.report index ((p.codec.decode v.toJson).map (set · rest)) := by
  rw [Arguments.decode_reported fields given]
  congr 1
  exact sets.decode_rest staged (Value.view_without fields p.name)
    (Value.view_of_held fields p.name v held present) rest
    ((Arguments.decode_ok_iff _ rfl rest).1 others)

theorem read_without (r : T) (read : args.decode T index = .ok r) :
    ∃ rest, Arguments.decode T [.object (fields.without p.name)] 0 = .ok rest := by
  have decoded := (Arguments.decode_ok_iff fields given r).1 read
  obtain ⟨rest, others⟩ := sets.decode_without staged (Value.view_without fields p.name)
    (Value.view_without_self fields p.name) r decoded
  exact ⟨rest, (Arguments.decode_ok_iff _ rfl rest).2 others⟩

end Reading

end Member.Sets

end HostBridge
