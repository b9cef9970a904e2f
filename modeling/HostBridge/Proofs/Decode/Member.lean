import HostBridge.Proofs.Decode.Record
import Mathlib.Data.List.Nodup

set_option autoImplicit false

namespace HostBridge

def Codec.Reads {α : Type} (codec : Codec α) (shown : Option Json) (blank v : α) : Prop :=
  match shown with
  | none => v = blank
  | some j => codec.decode j = .ok v

def KeyMap.view {α : Type} (m : KeyMap α) (name : String) : Option α := m.lookup name

structure Member (R : Type) where
  name : String
  isRequired : Bool
  Part : Type
  codec : Codec Part
  part : R → Part

namespace Member

variable {R : Type} (p : Member R) (view other : String → Option Json)

def Reads (blank x : R) : Prop := p.codec.Reads (view p.name) (p.part blank) (p.part x)

def Refuses (e : DecodeError) : Prop := ∃ j, view p.name = some j ∧ p.codec.decode j = .error e

def Lacks : Prop := p.isRequired = true ∧ view p.name = none

def Alike : Prop :=
  view p.name = other p.name ∨
    ∃ j k, view p.name = some j ∧ other p.name = some k ∧ p.codec.decode j = p.codec.decode k

def within {S : Type} (part : S → R) : Member S :=
  ⟨p.name, p.isRequired, p.Part, p.codec, p.part ∘ part⟩

namespace Alike

variable {p view other} (alike : p.Alike view other)

include alike

theorem symm : p.Alike other view :=
  alike.imp Eq.symm fun ⟨j, k, here, there, same⟩ => ⟨k, j, there, here, same.symm⟩

theorem reads_iff (blank x : R) : p.Reads view blank x ↔ p.Reads other blank x := by
  rcases alike with same | ⟨j, k, here, there, same⟩
  · rw [Reads, Reads, same]
  · simp only [Reads, Codec.Reads, here, there, same]

theorem refuses_iff (e : DecodeError) : p.Refuses view e ↔ p.Refuses other e := by
  rcases alike with same | ⟨j, k, here, there, same⟩
  · rw [Refuses, Refuses, same]
  · simp only [Refuses, here, there, Option.some.injEq, exists_eq_left', same]

theorem lacks_iff : p.Lacks view ↔ p.Lacks other := by
  rcases alike with same | ⟨j, k, here, there, same⟩
  · rw [Lacks, Lacks, same]
  · simp only [Lacks, here, there, reduceCtorEq]

end Alike

end Member

inductive Fault {R : Type} (members : List (Member R)) (view : String → Option Json) :
    DecodeError → Prop
  | refused (p : Member R) (e : DecodeError) (member : p ∈ members) (refuses : p.Refuses view e)
      (least : ∀ q ∈ members, ∀ other, q.Refuses view other → p.name ≤ q.name) :
      Fault members view e
  | missing (before : List (Member R)) (p : Member R) (after : List (Member R))
      (split : members = before ++ p :: after)
      (accepted : ∀ q ∈ members, ∀ other, ¬ q.Refuses view other) (lacks : p.Lacks view)
      (first : ∀ q ∈ before, ¬ q.Lacks view) : Fault members view (.missingField p.name)

section Search

variable {R : Type} {members : List (Member R)} {view : String → Option Json}

def Member.lacking? (members : List (Member R)) (view : String → Option Json) : Option (Member R) :=
  members.find? fun p => p.isRequired && (view p.name).isNone

theorem lacking_iff (p : Member R) :
    (p.isRequired && (view p.name).isNone) = true ↔ p.Lacks view := by
  simp [Member.Lacks]

theorem lacking_some_iff (p : Member R) : Member.lacking? members view = some p ↔
    p.Lacks view ∧ ∃ before after, members = before ++ p :: after ∧
      ∀ q ∈ before, ¬ q.Lacks view := by
  simp only [Member.lacking?, List.find?_eq_some_iff_append, Bool.not_eq_true',
    ← lacking_iff, Bool.not_eq_true]

theorem lacking_none_iff : Member.lacking? members view = none ↔ ∀ p ∈ members, ¬ p.Lacks view := by
  simp [Member.lacking?, Member.Lacks]

theorem Fault.unique (distinct : (members.map Member.name).Nodup) {e other : DecodeError}
    (fault : Fault members view e) (another : Fault members view other) : e = other := by
  cases fault with
  | refused p _ member refuses least =>
    cases another with
    | refused q _ among also lowest =>
      have same : p.name = q.name :=
        String.le_antisymm (least q among _ also) (lowest p member _ refuses)
      obtain rfl := List.inj_on_of_nodup_map distinct member among same
      obtain ⟨j, shown, failed⟩ := refuses
      obtain ⟨k, found, broken⟩ := also
      cases shown.symm.trans found
      exact Except.error.inj (failed.symm.trans broken)
    | missing before q after split accepted lacks first =>
      exact absurd refuses (accepted p member e)
  | missing before p after split accepted lacks first =>
    have here := (lacking_some_iff p).2 ⟨lacks, before, after, split, first⟩
    cases another with
    | refused q _ among also lowest => exact absurd also (accepted q among other)
    | missing before' q after' split' accepted' lacks' first' =>
      have there := (lacking_some_iff q).2 ⟨lacks', before', after', split', first'⟩
      cases here.symm.trans there
      rfl

theorem exists_least (refused : ∃ p ∈ members, ∃ e, p.Refuses view e) :
    ∃ p ∈ members, (∃ e, p.Refuses view e) ∧
      ∀ q ∈ members, ∀ other, q.Refuses view other → p.name ≤ q.name := by
  induction members with
  | nil =>
    obtain ⟨p, member, _⟩ := refused
    cases member
  | cons first rest ih =>
    by_cases later : ∃ p ∈ rest, ∃ e, p.Refuses view e
    · obtain ⟨least, among, refuses, lowest⟩ := ih later
      by_cases lower : (∃ e, first.Refuses view e) ∧ first.name ≤ least.name
      · refine ⟨first, List.mem_cons_self, lower.1, fun q member other refuses => ?_⟩
        rcases List.mem_cons.1 member with rfl | later
        · exact String.le_refl _
        · exact String.le_trans lower.2 (lowest q later other refuses)
      · refine ⟨least, List.mem_cons_of_mem _ among, refuses, fun q member other refuses => ?_⟩
        rcases List.mem_cons.1 member with rfl | later
        · exact (String.le_total _ _).resolve_right fun less => lower ⟨⟨other, refuses⟩, less⟩
        · exact lowest q later other refuses
    · obtain ⟨p, member, e, refuses⟩ := refused
      have only : ∀ q ∈ first :: rest, ∀ other, q.Refuses view other → q = first :=
        fun q member other refuses => (List.mem_cons.1 member).resolve_right fun among =>
          later ⟨q, among, other, refuses⟩
      obtain rfl := only p member e refuses
      refine ⟨p, member, ⟨e, refuses⟩, fun q among other refuses => ?_⟩
      have same : q = p := only q among other refuses
      exact same ▸ String.le_refl p.name

theorem Fault.exists_iff : (∃ e, Fault members view e) ↔
    ∃ p ∈ members, (∃ e, p.Refuses view e) ∨ p.Lacks view := by
  constructor
  · rintro ⟨e, fault⟩
    cases fault with
    | refused p _ member refuses _ => exact ⟨p, member, .inl ⟨e, refuses⟩⟩
    | missing before p after split _ lacks _ => exact ⟨p, split ▸ by simp, .inr lacks⟩
  · rintro ⟨p, member, trouble⟩
    by_cases refused : ∃ q ∈ members, ∃ other, q.Refuses view other
    · obtain ⟨least, among, ⟨other, refuses⟩, lowest⟩ := exists_least refused
      exact ⟨other, .refused least other among refuses lowest⟩
    · have accepted : ∀ q ∈ members, ∀ other, ¬ q.Refuses view other :=
        fun q among other refuses => refused ⟨q, among, other, refuses⟩
      have lacks := trouble.resolve_left fun ⟨e, refuses⟩ => accepted p member e refuses
      cases lacking : Member.lacking? members view with
      | none => exact absurd lacks (lacking_none_iff.1 lacking p member)
      | some q =>
        obtain ⟨lacks, before, after, split, first⟩ := (lacking_some_iff q).1 lacking
        exact ⟨_, .missing before q after split accepted lacks first⟩

theorem Fault.congr {other : String → Option Json}
    (alike : ∀ p ∈ members, p.Alike view other) {e : DecodeError}
    (fault : Fault members view e) : Fault members other e := by
  have accepts : (∀ q ∈ members, ∀ e, ¬ q.Refuses view e) →
      ∀ q ∈ members, ∀ e, ¬ q.Refuses other e :=
    fun accepted q among e refuses => accepted q among e (((alike q among).refuses_iff e).2 refuses)
  cases fault with
  | refused p _ member refuses least =>
    exact .refused p e member (((alike p member).refuses_iff e).1 refuses) fun q among e refuses =>
      least q among e (((alike q among).refuses_iff e).2 refuses)
  | missing before p after split accepted lacks first =>
    refine .missing before p after split (accepts accepted) ?_ fun q earlier lacks => ?_
    · exact (alike p (split ▸ by simp)).lacks_iff.1 lacks
    · exact first q earlier ((alike q (split ▸ by simp [earlier])).lacks_iff.2 lacks)

theorem Fault.within_iff {S : Type} (part : S → R) {e : DecodeError} :
    Fault (members.map (Member.within · part)) view e ↔ Fault members view e := by
  constructor
  · intro fault
    cases fault with
    | refused p _ member refuses least =>
      obtain ⟨q, among, rfl⟩ := List.mem_map.1 member
      exact .refused q e among refuses fun r declared => least _ (List.mem_map_of_mem declared)
    | missing before p after split accepted lacks first =>
      obtain ⟨before, rest, rfl, rfl, tail⟩ := List.map_eq_append_iff.1 split
      obtain ⟨q, after, rfl, rfl, rfl⟩ := List.map_eq_cons_iff.1 tail
      refine .missing before q after rfl ?_ lacks fun r earlier =>
        first _ (List.mem_map_of_mem earlier)
      exact fun r declared => accepted _ (List.mem_map_of_mem declared)
  · intro fault
    cases fault with
    | refused p _ member refuses least =>
      refine .refused (p.within part) e (List.mem_map_of_mem member) refuses ?_
      exact List.forall_mem_map.2 least
    | missing before p after split accepted lacks first =>
      have mapped : members.map (Member.within · part) =
          before.map (Member.within · part) ++
            p.within part :: after.map (Member.within · part) := by
        rw [split, List.map_append, List.map_cons]
      refine .missing _ (p.within part) _ mapped ?_ lacks ?_
      · exact List.forall_mem_map.2 accepted
      · exact List.forall_mem_map.2 first

end Search

theorem forall₂_partner {α : Type _} {β : Type _} {r : α → β → Prop} {as : List α} {bs : List β}
    (paired : List.Forall₂ r as bs) (a : α) (member : a ∈ as) : ∃ b ∈ bs, r a b := by
  induction paired with
  | nil => cases member
  | cons here _ ih =>
    rcases List.mem_cons.1 member with rfl | later
    · exact ⟨_, List.mem_cons_self, here⟩
    · obtain ⟨b, among, related⟩ := ih later
      exact ⟨b, List.mem_cons_of_mem _ among, related⟩

structure Field.Fills {R : Type} (f : Field R) (p : Member R) : Prop where
  name : f.name = p.name
  isRequired : f.isRequired = p.isRequired
  decode : ∃ set : p.Part → R → R, ∀ j r, f.decode j r = (p.codec.decode j).map (set · r)

theorem Field.of_codec_fills {R α : Type} {isRequired : Bool} {name : String} {codec : Codec α}
    {get : R → α} {set : α → R → R} :
    (ofCodec isRequired name codec get set).Fills ⟨name, isRequired, α, codec, get⟩ :=
  ⟨rfl, rfl, set, fun _ _ => rfl⟩

namespace Field.Fills

variable {R : Type} {f : Field R} {p : Member R} (fills : f.Fills p)

include fills

theorem refuses (j : Json) (r : R) (e : DecodeError) :
    f.decode j r = .error e ↔ p.codec.decode j = .error e := by
  obtain ⟨set, same⟩ := fills.decode
  rw [same]
  cases p.codec.decode j <;> simp [Except.map]

end Field.Fills

namespace Record

variable {R : Type}

structure Declares (t : Record R) (members : List (Member R)) : Prop where
  fills : List.Forall₂ Field.Fills t.fields members
  distinct : (members.map Member.name).Nodup

namespace Declares

variable {t : Record R} {members : List (Member R)} (declares : t.Declares members)

include declares

theorem member_of_field (f : Field R) (member : f ∈ t.fields) : ∃ p ∈ members, f.Fills p :=
  forall₂_partner declares.fills f member

theorem field_of_member (p : Member R) (member : p ∈ members) : ∃ f ∈ t.fields, f.Fills p :=
  forall₂_partner declares.fills.flip p member

theorem names : t.fields.map Field.name = members.map Member.name := by
  have fills := declares.fills
  generalize t.fields = fields at fills
  clear declares
  induction fills with
  | nil => rfl
  | cons here _ ih => rw [List.map_cons, List.map_cons, here.name, ih]

theorem missing_eq (m : KeyMap Json) :
    t.missing? m = (Member.lacking? members m.view).map Member.name := by
  have fills := declares.fills
  unfold missing? Member.lacking?
  generalize t.fields = fields at fills
  clear declares
  induction fills with
  | nil => rfl
  | @cons f p _ _ here _ ih =>
    have same : (f.isRequired && !m.contains f.name) =
        (p.isRequired && (m.view p.name).isNone) := by
      rw [here.name, here.isRequired, KeyMap.contains, KeyMap.view, Option.not_isSome]
    rw [List.find?_cons, List.find?_cons, same]
    cases (p.isRequired && (m.view p.name).isNone) with
    | true => exact congrArg some here.name
    | false => exact ih

theorem mem_ascending_iff (entry : String × Field R) :
    entry ∈ t.ascending ↔ ∃ f ∈ t.fields, (f.name, f) = entry := by
  refine ⟨t.mem_ascending entry, ?_⟩
  rintro ⟨f, member, rfl⟩
  have distinct : ((t.fields.map fun f => (f.name, f)).map Prod.fst).Nodup := by
    rw [List.map_map]
    exact declares.names ▸ declares.distinct
  apply KeyMap.mem_of_lookup
  rw [ascending, KeyMap.lookup_of_list _ distinct]
  exact KeyMap.lookup_of_mem _ distinct _ _ (List.mem_map_of_mem member)

end Declares

section Taking

variable {m : KeyMap Json}

theorem take_fields_accepts (entries : List (String × Field R)) (r last : R)
    (taken : takeFields m entries r = .ok last) :
    ∀ entry ∈ entries, ∀ j, m.lookup entry.1 = some j →
      ∃ before after, entry.2.decode j before = .ok after := by
  induction entries generalizing r with
  | nil => nofun
  | cons first rest ih =>
    obtain ⟨name, f⟩ := first
    intro entry member j shown
    rw [takeFields] at taken
    cases found : m.lookup name with
    | none =>
      rw [found] at taken
      rcases List.mem_cons.1 member with rfl | later
      · cases found.symm.trans shown
      · exact ih r taken entry later j shown
    | some k =>
      rw [found] at taken
      obtain ⟨next, decoded, taken⟩ := bind_ok taken
      rcases List.mem_cons.1 member with rfl | later
      · cases found.symm.trans shown
        exact ⟨r, next, decoded⟩
      · exact ih next taken entry later j shown

theorem take_fields_refuses (entries : List (String × Field R)) (r : R) (e : DecodeError)
    (failed : takeFields m entries r = .error e) :
    ∃ before entry after j last, entries = before ++ entry :: after ∧
      m.lookup entry.1 = some j ∧ entry.2.decode j last = .error e ∧
        takeFields m before r = .ok last := by
  induction entries generalizing r with
  | nil => cases failed
  | cons first rest ih =>
    obtain ⟨name, f⟩ := first
    rw [takeFields] at failed
    cases found : m.lookup name with
    | none =>
      rw [found] at failed
      obtain ⟨before, entry, after, j, last, rfl, shown, refused, taken⟩ := ih r failed
      refine ⟨(name, f) :: before, entry, after, j, last, rfl, shown, refused, ?_⟩
      rw [takeFields, found]
      exact taken
    | some k =>
      rw [found] at failed
      rcases bind_error failed with here | ⟨next, decoded, failed⟩
      · exact ⟨[], (name, f), rest, k, r, rfl, found, here, rfl⟩
      · obtain ⟨before, entry, after, j, last, rfl, shown, refused, taken⟩ := ih next failed
        refine ⟨(name, f) :: before, entry, after, j, last, rfl, shown, refused, ?_⟩
        rw [takeFields, found]
        simp only [decoded, bind, Except.bind, taken]

end Taking

namespace Declares

variable {t : Record R} {members : List (Member R)} (declares : t.Declares members)
  {m : KeyMap Json}

include declares

theorem taken_sound (r last : R) (taken : takeFields m t.ascending r = .ok last) (p : Member R)
    (member : p ∈ members) (e : DecodeError) : ¬ p.Refuses m.view e := by
  rintro ⟨j, shown, refused⟩
  obtain ⟨f, declared, fills⟩ := declares.field_of_member p member
  have listed := (declares.mem_ascending_iff (f.name, f)).2 ⟨f, declared, rfl⟩
  obtain ⟨before, after, decoded⟩ :=
    take_fields_accepts t.ascending r last taken (f.name, f) listed j (fills.name ▸ shown)
  rw [(fills.refuses j before e).2 refused] at decoded
  cases decoded

theorem refused_fault (r : R) (e : DecodeError) (failed : takeFields m t.ascending r = .error e) :
    Fault members m.view e := by
  obtain ⟨before, entry, after, j, last, split, shown, refused, taken⟩ :=
    take_fields_refuses t.ascending r e failed
  obtain ⟨f, declared, rfl⟩ := (declares.mem_ascending_iff entry).1 (split ▸ by simp)
  obtain ⟨p, member, fills⟩ := declares.member_of_field f declared
  refine .refused p e member ⟨j, fills.name ▸ shown, (fills.refuses j last e).1 refused⟩ ?_
  intro q among other ⟨k, found, broken⟩
  refine String.not_lt.1 fun less => ?_
  -- A lesser name stands before this one, so its value was accepted.
  obtain ⟨g, given, fits⟩ := declares.field_of_member q among
  have listed := (declares.mem_ascending_iff (g.name, g)).2 ⟨g, given, rfl⟩
  have sorted : KeyMap.Ascending t.ascending := KeyMap.of_list_ascending _
  rw [← fits.name, ← fills.name] at less
  have earlier := (split ▸ sorted).mem_before (split ▸ listed) less
  obtain ⟨r', next, decoded⟩ :=
    take_fields_accepts before r last taken _ earlier k (fits.name ▸ found)
  rw [(fits.refuses k r' other).2 broken] at decoded
  cases decoded

theorem decode_fields_iff (x : R) : t.decodeFields m = .ok x ↔
    takeFields m t.ascending t.blank = .ok x ∧ ∀ p ∈ members, ¬ p.Lacks m.view := by
  rw [← lacking_none_iff, decodeFields, declares.missing_eq]
  cases takeFields m t.ascending t.blank with
  | error e => simp only [bind, Except.bind, reduceCtorEq, false_and]
  | ok last =>
    cases Member.lacking? members m.view with
    | none => exact (and_iff_left rfl).symm
    | some p => simp only [bind, Except.bind, Option.map_some, reduceCtorEq, and_false]

theorem decode_sound (x : R) (decoded : t.decodeFields m = .ok x) (e : DecodeError) :
    ¬ Fault members m.view e := by
  obtain ⟨taken, complete⟩ := (declares.decode_fields_iff x).1 decoded
  intro fault
  cases fault with
  | refused p _ member refuses least =>
    exact declares.taken_sound _ x taken p member e refuses
  | missing before p after split accepted lacks first => exact complete p (split ▸ by simp) lacks

theorem decode_fault (e : DecodeError) (failed : t.decodeFields m = .error e) :
    Fault members m.view e := by
  rcases bind_error failed with failed | ⟨last, taken, failed⟩
  · exact declares.refused_fault _ e failed
  · rw [declares.missing_eq] at failed
    cases lacking : Member.lacking? members m.view with
    | none =>
      rw [lacking] at failed
      cases failed
    | some p =>
      rw [lacking] at failed
      cases failed
      obtain ⟨lacks, before, after, split, first⟩ := (lacking_some_iff p).1 lacking
      exact .missing before p after split (declares.taken_sound _ last taken) lacks first

theorem decode_error_iff (e : DecodeError) :
    t.decodeFields m = .error e ↔ Fault members m.view e := by
  refine ⟨declares.decode_fault e, fun fault => ?_⟩
  cases decoded : t.decodeFields m with
  | ok x => exact absurd fault (declares.decode_sound x decoded e)
  | error other =>
    rw [(declares.decode_fault other decoded).unique declares.distinct fault]

theorem decodes_iff :
    (∃ x, t.decodeFields m = .ok x) ↔ ∀ e, ¬ Fault members m.view e := by
  constructor
  · rintro ⟨x, decoded⟩
    exact declares.decode_sound x decoded
  · intro sound
    cases decoded : t.decodeFields m with
    | ok x => exact ⟨x, rfl⟩
    | error e => exact absurd (declares.decode_fault e decoded) (sound e)

end Declares

section Spelling

variable {m : KeyMap Json} {x : R}

inductive Spells (m : KeyMap Json) (x : R) : List (String × Field R) → R → Prop → Prop
  | done (r : R) : Spells m x [] r (r = x)
  | field {α : Type} {codec : Codec α} {get : R → α} {set : α → R → R} {isRequired : Bool}
      {name : String} {rest : List (String × Field R)} {r : R} {spelled : α → Prop}
      (kept : set (get r) r = r) (after : ∀ v, Spells m x rest (set v r) (spelled v)) :
      Spells m x ((name, .ofCodec isRequired name codec get set) :: rest) r
        (∃ v, codec.Reads (m.view name) (get r) v ∧ spelled v)

theorem Spells.take_fields {entries : List (String × Field R)} {r : R} {spelled : Prop}
    (spells : Spells m x entries r spelled) : takeFields m entries r = .ok x ↔ spelled := by
  induction spells with
  | done r => exact ⟨Except.ok.inj, congrArg Except.ok⟩
  | @field α codec get set isRequired name rest r spelled kept after ih =>
    rw [takeFields, KeyMap.view]
    cases m.lookup name with
    | none =>
      have held := ih (get r)
      rw [kept] at held
      simpa only [Codec.Reads, exists_eq_left] using held
    | some j =>
      simp only [Codec.Reads]
      constructor
      · intro taken
        obtain ⟨next, decoded, taken⟩ := bind_ok taken
        change (codec.decode j).map (set · r) = .ok next at decoded
        cases read : codec.decode j with
        | error e =>
          rw [read] at decoded
          cases decoded
        | ok v =>
          rw [read] at decoded
          cases decoded
          exact ⟨v, rfl, (ih v).1 taken⟩
      · rintro ⟨v, read, shown⟩
        have decoded :
            (Field.ofCodec isRequired name codec get set).decode j r = .ok (set v r) := by
          change (codec.decode j).map (set · r) = _
          rw [read]
          rfl
        simp only [decoded, bind, Except.bind, (ih v).2 shown]

end Spelling

def Composes (t : Record R) (members : List (Member R)) : Prop :=
  ∀ (m : KeyMap Json) (x : R),
    takeFields m t.ascending t.blank = .ok x ↔ ∀ p ∈ members, p.Reads m.view t.blank x

end Record

end HostBridge
