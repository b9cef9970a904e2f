import HostBridge.Decode.Record
import HostBridge.Proofs.Decode.Codec

set_option autoImplicit false

namespace HostBridge

variable {R : Type}

namespace Field

variable {α : Type} {codec : Codec α} {valid : α → Prop} {get : R → α} {set : α → R → R}
  {isRequired : Bool} {name : String}

def Keeps (f : Field R) (fit : R → Prop) : Prop :=
  ∀ j r next, j.Carried → fit r → f.decode j r = .ok next → fit next

theorem of_codec_keeps {fit : R → Prop} (survives : codec.Survives valid)
    (sets : ∀ v r, valid v → fit r → fit (set v r)) :
    (ofCodec isRequired name codec get set).Keeps fit := by
  intro j r next carried before decoded
  change (codec.decode j).map (set · r) = .ok next at decoded
  cases read : codec.decode j with
  | error e =>
    rw [read] at decoded
    cases decoded
  | ok v =>
    rw [read] at decoded
    cases decoded
    exact sets v r (survives.accepts j v carried read) before

theorem of_codec_copies {x : R} (survives : codec.Survives valid) (fits : valid (get x)) (r : R) :
    (ofCodec isRequired name codec get set).decode
      ((ofCodec isRequired name codec get set).encode x).crossed r = .ok (set (get x) r) := by
  change (codec.decode (codec.encode (get x)).crossed).map (set · r) = .ok (set (get x) r)
  rw [survives.returns (get x) fits]
  rfl

end Field

namespace Record

inductive Copied (x : R) : List (String × Field R) → R → R → Prop
  | done (r : R) : Copied x [] r r
  | field {α : Type} {codec : Codec α} {valid : α → Prop} {get : R → α} {set : α → R → R}
      {isRequired : Bool} {name : String} {rest : List (String × Field R)} {r last : R}
      (survives : codec.Survives valid) (fits : valid (get x))
      (after : Copied x rest (set (get x) r) last) :
      Copied x ((name, .ofCodec isRequired name codec get set) :: rest) r last

def Arrived (t : Record R) (x : R) (m : KeyMap Json) : Prop :=
  ∀ f ∈ t.fields, m.lookup f.name = some (f.encode x).crossed

variable {t : Record R} {x : R} {m : KeyMap Json}

theorem Copied.take_fields {entries : List (String × Field R)} {r last : R}
    (arrived : ∀ entry ∈ entries, m.lookup entry.1 = some (entry.2.encode x).crossed)
    (copied : Copied x entries r last) : takeFields m entries r = .ok last := by
  induction copied with
  | done r => rfl
  | field survives fits after ih =>
    have here := arrived _ List.mem_cons_self
    have later := ih fun entry member => arrived entry (List.mem_cons_of_mem _ member)
    simp only [takeFields, here, Field.of_codec_copies survives fits, bind, Except.bind, later]

theorem mem_ascending (entry : String × Field R) (member : entry ∈ t.ascending) :
    ∃ f ∈ t.fields, (f.name, f) = entry :=
  List.mem_map.1 (KeyMap.mem_of_list _ entry member)

theorem Arrived.nothing_missing (arrived : t.Arrived x m) : t.missing? m = none := by
  have found : (t.fields.find? fun f => f.isRequired && !m.contains f.name) = none := by
    apply List.find?_eq_none.2
    intro f member
    simp [KeyMap.contains, arrived f member]
  rw [missing?, found]
  rfl

theorem Arrived.decode {last : R} (arrived : t.Arrived x m)
    (copied : Copied x t.ascending t.blank last) : t.decodeFields m = .ok last := by
  have taken : takeFields m t.ascending t.blank = .ok last := by
    apply copied.take_fields
    intro entry member
    obtain ⟨f, declared, rfl⟩ := mem_ascending entry member
    exact arrived f declared
  simp only [decodeFields, taken, bind, Except.bind, arrived.nothing_missing]

theorem arrived_of_entries (entries : List (String × Json))
    (distinct : (entries.map Prod.fst).Nodup)
    (listed : ∀ f ∈ t.fields, (f.name, f.encode x) ∈ entries) :
    t.Arrived x (Json.crossedFields (KeyMap.ofList entries)) := by
  intro f member
  rw [Json.lookup_crossed, KeyMap.lookup_of_list entries distinct,
    KeyMap.lookup_of_mem entries distinct f.name (f.encode x) (listed f member)]
  rfl

structure Survives (t : Record R) (fit : R → Prop) : Prop where
  distinct : (t.fields.map Field.name).Nodup
  copied : ∀ x, fit x → Copied x t.ascending t.blank x
  fresh : fit t.blank
  keeps : ∀ f ∈ t.fields, f.Keeps fit

theorem Survives.plain (distinct : (t.fields.map Field.name).Nodup)
    (copied : ∀ x, Copied x t.ascending t.blank x) : t.Survives fun _ => True :=
  ⟨distinct, fun x _ => copied x, trivial, fun _ _ _ _ _ _ _ _ => trivial⟩

variable {fit : R → Prop}

theorem encoded_names (t : Record R) (x : R) :
    (t.encodeFields x).map Prod.fst = t.fields.map Field.name := by
  simp [encodeFields]

theorem Survives.arrives (survives : t.Survives fit) (x : R) :
    t.Arrived x (Json.crossedFields (KeyMap.ofList (t.encodeFields x))) := by
  apply arrived_of_entries
  · rw [encoded_names]
    exact survives.distinct
  · intro f member
    exact List.mem_map_of_mem member

section Congruence

variable (n : KeyMap Json)

theorem take_fields_congr (entries : List (String × Field R))
    (alike : ∀ entry ∈ entries, m.lookup entry.1 = n.lookup entry.1) (r : R) :
    takeFields m entries r = takeFields n entries r := by
  induction entries generalizing r with
  | nil => rfl
  | cons entry rest ih =>
    obtain ⟨name, f⟩ := entry
    have here : m.lookup name = n.lookup name := alike _ List.mem_cons_self
    have later := ih fun entry member => alike entry (List.mem_cons_of_mem _ member)
    simp only [takeFields, here, later]

theorem decode_fields_congr (t : Record R)
    (alike : ∀ f ∈ t.fields, m.lookup f.name = n.lookup f.name) :
    t.decodeFields m = t.decodeFields n := by
  have taken : takeFields m t.ascending t.blank = takeFields n t.ascending t.blank := by
    apply take_fields_congr
    intro entry member
    obtain ⟨f, declared, rfl⟩ := mem_ascending entry member
    exact alike f declared
  have missing : t.missing? m = t.missing? n := by
    have lacking : ∀ f ∈ t.fields, (f.isRequired && !m.contains f.name) =
        (f.isRequired && !n.contains f.name) := by
      intro f declared
      rw [KeyMap.contains, KeyMap.contains, alike f declared]
    rw [missing?, missing?, ← List.head?_filter, ← List.head?_filter, List.filter_congr lacking]
  simp only [decodeFields, taken, missing]

end Congruence

theorem take_fields_keeps (carried : Json.CarriedFields m) (entries : List (String × Field R))
    (keeps : ∀ entry ∈ entries, entry.2.Keeps fit) (r last : R) (before : fit r)
    (taken : takeFields m entries r = .ok last) : fit last := by
  induction entries generalizing r with
  | nil =>
    cases taken
    exact before
  | cons entry rest ih =>
    obtain ⟨name, f⟩ := entry
    have others : ∀ entry ∈ rest, entry.2.Keeps fit :=
      fun entry member => keeps entry (List.mem_cons_of_mem _ member)
    rw [takeFields] at taken
    split at taken
    · exact ih others r before taken
    · next j found =>
      obtain ⟨next, decoded, taken⟩ := bind_ok taken
      have between := keeps _ List.mem_cons_self j r next (carried.lookup found) before decoded
      exact ih others next between taken

theorem take_items_keeps (fields : List (Field R)) (keeps : ∀ f ∈ fields, f.Keeps fit)
    (items : List Json) (carried : Json.CarriedItems items) (r last : R) (before : fit r)
    (taken : takeItems fields items r = .ok last) : fit last := by
  induction fields generalizing items r with
  | nil =>
    cases taken
    exact before
  | cons f rest ih =>
    cases items with
    | nil =>
      cases taken
      exact before
    | cons j others =>
      obtain ⟨next, decoded, taken⟩ := bind_ok taken
      have between := keeps f List.mem_cons_self j r next carried.1 before decoded
      exact ih (fun g member => keeps g (List.mem_cons_of_mem _ member)) others carried.2 next
        between taken

theorem Survives.accepts (survives : t.Survives fit) (carried : Json.CarriedFields m)
    (decoded : t.decodeFields m = .ok x) : fit x := by
  obtain ⟨last, taken, decoded⟩ := bind_ok decoded
  have kept : fit last := by
    apply take_fields_keeps carried t.ascending _ t.blank last survives.fresh taken
    intro entry member
    obtain ⟨f, declared, rfl⟩ := mem_ascending entry member
    exact survives.keeps f declared
  split at decoded
  · cases decoded
  · cases decoded
    exact kept

theorem Survives.accepts_items (survives : t.Survives fit) (limit : LengthLimit)
    {items : List Json} (carried : Json.CarriedItems items)
    (decoded : t.decodeItems limit items = .ok x) : fit x := by
  obtain ⟨last, taken, decoded⟩ := bind_ok decoded
  have kept := take_items_keeps t.fields survives.keeps items carried t.blank last survives.fresh
    taken
  split at decoded
  · cases decoded
  · split at decoded
    · cases decoded
    · cases decoded
      exact kept

theorem Survives.codec (survives : t.Survives fit) (limit : LengthLimit) :
    (t.codec limit).Survives fit where
  returns x fits := by
    have written : (t.codec limit).encode x = .object (KeyMap.ofList (t.encodeFields x)) := rfl
    rw [written, Json.crossed_object]
    exact (survives.arrives x).decode (survives.copied x fits)
  accepts j x carried decoded := by
    cases j with
    | object fields => exact survives.accepts carried decoded
    | array items => exact survives.accepts_items limit carried decoded
    | _ => cases decoded

end Record

end HostBridge
