import HostBridge.KeyMap
import HostBridge.Proofs.Except

set_option autoImplicit false

namespace HostBridge

namespace KeyMap

variable {β : Type}

theorem insert_perm (name : String) (value : β) (m : KeyMap β)
    (fresh : m.contains name = false) : (insert name value m).Perm ((name, value) :: m) := by
  induction m with
  | nil => exact .refl _
  | cons entry rest ih =>
    obtain ⟨other, held⟩ := entry
    simp only [contains, List.lookup_cons] at fresh
    by_cases same : name = other
    · subst same
      rw [beq_self_eq_true] at fresh
      cases fresh
    · rw [beq_eq_false_iff_ne.2 same] at fresh
      rw [insert]
      by_cases before : name < other
      · rw [if_pos before]
      · rw [if_neg before, if_neg same]
        exact ((ih fresh).cons _).trans (.swap _ _ _)

theorem Ascending.eq_of_perm {m n : KeyMap β} (left : Ascending m) (right : Ascending n)
    (same : m.Perm n) : m = n := by
  have order : ∀ a b : String × β, a ∈ m → b ∈ n → a.1 < b.1 → b.1 < a.1 → a = b :=
    fun a b _ _ before after => absurd (String.lt_trans before after) (String.lt_irrefl _)
  exact same.eq_of_pairwise order (List.pairwise_map.1 left) (List.pairwise_map.1 right)

end KeyMap

section Filling

variable {σ β η : Type} {step : σ → β → Except η σ} {entries : σ → KeyMap β} {name : β → String}
  {fault : β → Option η} {taken : σ → β → η}

structure Adds (step : σ → β → Except η σ) (entries : σ → KeyMap β) (name : β → String)
    (fault : β → Option η) (taken : σ → β → η) : Prop where
  faulty : ∀ s x e, fault x = some e → step s x = .error e
  repeated : ∀ s x, fault x = none → (entries s).contains (name x) = true →
    step s x = .error (taken s x)
  added : ∀ s x, fault x = none → (entries s).contains (name x) = false →
    ∃ next, step s x = .ok next ∧ entries next = (entries s).insert (name x) x ∧
      taken next = taken s

def Sound (fault : β → Option η) (name : β → String) (items : List β) : Prop :=
  (∀ x ∈ items, fault x = none) ∧ (items.map name).Nodup

inductive Refused (fault : β → Option η) (name : β → String) (taken : β → η) (before : List β)
    (x : β) : η → Prop
  | faulty (e : η) (here : fault x = some e) : Refused fault name taken before x e
  | repeated (fine : fault x = none) (again : name x ∈ before.map name) :
      Refused fault name taken before x (taken x)

structure Keeps (entries : KeyMap β) (name : β → String) (items : List β) : Prop where
  ascending : entries.Ascending
  listed : entries.Perm (items.map fun x => (name x, x))

namespace Keeps

variable {m n : KeyMap β} {items others : List β}

theorem empty : Keeps ([] : KeyMap β) name [] := ⟨List.Pairwise.nil, .refl _⟩

theorem contains_iff (kept : Keeps m name items) (key : String) :
    m.contains key = true ↔ key ∈ items.map name := by
  rw [KeyMap.contains_iff, (kept.listed.map Prod.fst).mem_iff, List.map_map]
  rfl

theorem keys_perm (kept : Keeps m name items) : m.keys.Perm (items.map name) := by
  have keys := kept.listed.map Prod.fst
  rw [List.map_map] at keys
  exact keys

theorem insert (kept : Keeps m name items) (x : β) (fresh : m.contains (name x) = false) :
    Keeps (m.insert (name x) x) name (items ++ [x]) where
  ascending := KeyMap.insert_ascending _ _ _ kept.ascending
  listed := by
    rw [List.map_append]
    have grown := (KeyMap.insert_perm (name x) x m fresh).trans (kept.listed.cons _)
    exact grown.trans (List.perm_append_singleton _ _).symm

theorem eq_of_perm (left : Keeps m name items) (right : Keeps n name others)
    (same : others.Perm items) : m = n :=
  left.ascending.eq_of_perm right.ascending
    (left.listed.trans ((same.map _).symm.trans right.listed.symm))

end Keeps

theorem Sound.nil : Sound fault name ([] : List β) := ⟨nofun, List.Pairwise.nil⟩

theorem Sound.of_perm {items others : List β} (sound : Sound fault name items)
    (same : others.Perm items) : Sound fault name others :=
  ⟨fun x member => sound.1 x (same.mem_iff.1 member), (same.map name).nodup_iff.2 sound.2⟩

theorem sound_snoc (before : List β) (x : β) : Sound fault name (before ++ [x]) ↔
    Sound fault name before ∧ fault x = none ∧ name x ∉ before.map name := by
  have names : ((before ++ [x]).map name).Nodup ↔
      name x ∉ before.map name ∧ (before.map name).Nodup := by
    rw [List.map_append, List.map_singleton, (List.perm_append_singleton _ _).nodup_iff,
      List.nodup_cons]
  rw [Sound, names, List.forall_mem_append]
  simp only [List.mem_singleton, forall_eq]
  exact ⟨fun ⟨⟨fine, here⟩, fresh, distinct⟩ => ⟨⟨fine, distinct⟩, here, fresh⟩,
    fun ⟨⟨fine, distinct⟩, here, fresh⟩ => ⟨⟨fine, here⟩, fresh, distinct⟩⟩

theorem Sound.earlier {before items : List β} (sound : Sound fault name (before ++ items)) :
    Sound fault name before := by
  obtain ⟨fine, distinct⟩ := sound
  rw [List.map_append, List.nodup_append] at distinct
  exact ⟨(List.forall_mem_append.1 fine).1, distinct.1⟩

theorem sound_or_refused (taken : β → η) (before items : List β)
    (sound : Sound fault name before) :
    Sound fault name (before ++ items) ∨ ∃ middle x after e, items = middle ++ x :: after ∧
      Sound fault name (before ++ middle) ∧ Refused fault name taken (before ++ middle) x e := by
  induction items generalizing before with
  | nil => exact .inl (by rwa [List.append_nil])
  | cons x rest ih =>
    by_cases here : fault x = none ∧ name x ∉ before.map name
    · have grown := (sound_snoc before x).2 ⟨sound, here⟩
      rcases ih (before ++ [x]) grown with whole | ⟨middle, y, after, e, rfl, others, refused⟩
      · exact .inl (by rwa [List.append_assoc] at whole)
      · rw [List.append_assoc] at others refused
        exact .inr ⟨x :: middle, y, after, e, rfl, others, refused⟩
    · refine .inr ⟨[], x, rest, ?_⟩
      rw [List.append_nil]
      cases faulty : fault x with
      | some e => exact ⟨e, rfl, sound, .faulty e faulty⟩
      | none =>
        have again : name x ∈ before.map name :=
          Decidable.byContradiction fun fresh => here ⟨faulty, fresh⟩
        exact ⟨taken x, rfl, sound, .repeated faulty again⟩

namespace Adds

variable (adds : Adds step entries name fault taken) {s : σ} {before : List β}
  (kept : Keeps (entries s) name before)

include adds kept

theorem step_refused (x : β) (e : η) (refused : Refused fault name (taken s) before x e) :
    step s x = .error e := by
  cases refused with
  | faulty _ here => exact adds.faulty s x e here
  | repeated fine again => exact adds.repeated s x fine ((kept.contains_iff _).2 again)

theorem step_added (x : β) (fine : fault x = none) (fresh : name x ∉ before.map name) :
    ∃ next, step s x = .ok next ∧ Keeps (entries next) name (before ++ [x]) ∧
      taken next = taken s := by
  have free : (entries s).contains (name x) = false :=
    Bool.eq_false_iff.2 fun again => fresh ((kept.contains_iff _).1 again)
  obtain ⟨next, done, grown, same⟩ := adds.added s x fine free
  exact ⟨next, done, grown ▸ kept.insert x free, same⟩

theorem run_sound (items : List β) (sound : Sound fault name (before ++ items)) :
    ∃ last, items.foldlM step s = .ok last ∧ Keeps (entries last) name (before ++ items) ∧
      taken last = taken s := by
  induction items generalizing s before with
  | nil => exact ⟨s, rfl, by rwa [List.append_nil], rfl⟩
  | cons x rest ih =>
    rw [List.append_cons] at sound ⊢
    obtain ⟨_, fine, fresh⟩ := (sound_snoc before x).1 sound.earlier
    obtain ⟨next, done, grown, same⟩ := adds.step_added kept x fine fresh
    obtain ⟨last, ran, whole, also⟩ := ih grown sound
    refine ⟨last, ?_, whole, also.trans same⟩
    rw [List.foldlM_cons, done]
    exact ran

theorem run_refused (middle after : List β) (x : β) (e : η)
    (sound : Sound fault name (before ++ middle))
    (refused : Refused fault name (taken s) (before ++ middle) x e) :
    (middle ++ x :: after).foldlM step s = .error e := by
  obtain ⟨last, ran, whole, same⟩ := adds.run_sound kept middle sound
  rw [List.foldlM_append, ran]
  change (x :: after).foldlM step last = _
  rw [List.foldlM_cons, adds.step_refused whole x e (same ▸ refused)]
  rfl

end Adds

section Filled

variable (adds : Adds step entries name fault taken) (items : List β) (s : σ)
  (empty : entries s = [])

include adds empty

theorem filled_iff : (∃ last, items.foldlM step s = .ok last) ↔ Sound fault name items := by
  have kept : Keeps (entries s) name [] := empty ▸ .empty
  rcases sound_or_refused (taken s) [] items (.nil : Sound fault name []) with
    sound | ⟨middle, x, after, e, rfl, sound, refused⟩
  · obtain ⟨last, ran, _⟩ := adds.run_sound kept items sound
    exact iff_of_true ⟨last, ran⟩ sound
  · rw [adds.run_refused kept middle after x e sound refused]
    refine iff_of_false nofun fun whole => ?_
    rw [List.append_cons] at whole
    obtain ⟨_, fine, fresh⟩ := (sound_snoc middle x).1 whole.earlier
    cases refused with
    | faulty _ here => cases fine.symm.trans here
    | repeated _ again => exact fresh again

theorem unfilled_iff (e : η) : items.foldlM step s = .error e ↔
    ∃ before x after, items = before ++ x :: after ∧ Sound fault name before ∧
      Refused fault name (taken s) before x e := by
  have kept : Keeps (entries s) name [] := empty ▸ .empty
  constructor
  · intro failed
    rcases sound_or_refused (taken s) [] items (.nil : Sound fault name []) with
      sound | ⟨middle, x, after, f, rfl, sound, refused⟩
    · obtain ⟨last, ran, _⟩ := adds.run_sound kept items sound
      cases failed.symm.trans ran
    · cases failed.symm.trans (adds.run_refused kept middle after x f sound refused)
      exact ⟨middle, x, after, rfl, sound, refused⟩
  · intro ⟨before, x, after, split, sound, refused⟩
    rw [split]
    exact adds.run_refused kept before after x e sound refused

theorem filled_keeps (last : σ) (filled : items.foldlM step s = .ok last) :
    Keeps (entries last) name items := by
  have kept : Keeps (entries s) name [] := empty ▸ .empty
  obtain ⟨other, ran, whole, _⟩ :=
    adds.run_sound kept items ((filled_iff adds items s empty).1 ⟨last, filled⟩)
  cases filled.symm.trans ran
  exact whole

theorem filled_perm (others : List β) (same : others.Perm items) (last : σ)
    (filled : items.foldlM step s = .ok last) :
    ∃ other, others.foldlM step s = .ok other ∧ entries other = entries last := by
  have sound := (filled_iff adds items s empty).1 ⟨last, filled⟩
  obtain ⟨other, ran⟩ := (filled_iff adds others s empty).2 (sound.of_perm same)
  have whole := filled_keeps adds items s empty last filled
  exact ⟨other, ran, ((filled_keeps adds others s empty other ran).eq_of_perm whole same.symm)⟩

end Filled

end Filling

end HostBridge
