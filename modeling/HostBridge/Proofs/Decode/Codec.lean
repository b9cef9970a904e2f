import HostBridge.Decode.Codec
import HostBridge.Proofs.Except
import HostBridge.Proofs.Value.Crossing

set_option autoImplicit false

namespace HostBridge.Codec

variable {α : Type} {codec : Codec α} {fit : α → Prop}

structure Survives (codec : Codec α) (fit : α → Prop) : Prop where
  returns : ∀ v, fit v → codec.decode (codec.encode v).crossed = .ok v
  accepts : ∀ j v, j.Carried → codec.decode j = .ok v → fit v

theorem Survives.all (returns : ∀ v, codec.decode (codec.encode v).crossed = .ok v) :
    codec.Survives fun _ => True :=
  ⟨fun v _ => returns v, fun _ _ _ _ => trivial⟩

theorem boolean_survives : boolean.Survives fun _ => True := .all fun _ => rfl

theorem string_survives : string.Survives fun _ => True := .all fun _ => rfl

theorem int32_decode (i : Int) : int32.decode (.int i) =
    if Binary64.fitsInt32 i then .ok i else .error (.wrongValue (.integer i) "i32") := rfl

theorem int32_encode (i : Int) : int32.encode i = .int i := rfl

theorem int32_survives : int32.Survives fun i => Binary64.fitsInt32 i = true where
  returns i fits := by
    rw [int32_encode, Json.crossed_int (Binary64.fits_safe i fits), int32_decode, if_pos fits]
  accepts j i carried read := by
    cases j with
    | int k =>
      rw [int32_decode] at read
      split at read
      · next fits =>
        cases read
        exact fits
      · cases read
    | _ => cases read

theorem number_encode (x : Binary64) (finite : x.isFinite = true) : number.encode x = .float x :=
  if_pos finite

theorem number_survives :
    number.Survives fun x => x.isFinite = true ∧ x.canonical = x where
  returns x := by
    rintro ⟨finite, plain⟩
    rw [number_encode x finite, Json.crossed_float, Binary64.toJson]
    cases safe : x.safeInteger? with
    | some i =>
      change Except.ok (Binary64.ofInt i) = .ok x
      rw [Binary64.of_safe_int x i safe, plain]
    | none =>
      simp only [finite, if_true]
      rfl
  accepts j x carried read := by
    cases j with
    | int i =>
      cases read
      exact ⟨Binary64.of_int_finite i carried, Binary64.of_int_canonical i carried⟩
    | float y =>
      cases read
      obtain ⟨finite, other⟩ := (Json.carried_float x).1 carried
      exact ⟨finite, x.canonical_of_unsafe other⟩
    | _ => cases read

theorem number_canonical (x : Binary64) (finite : x.isFinite = true) :
    (number.encode x.canonical).crossed = (number.encode x).crossed := by
  rw [number_encode x finite, number_encode _ (x.canonical_finite finite)]
  change x.canonical.toJson = x.toJson
  cases safe : x.safeInteger? with
  | none => rw [x.canonical_of_unsafe safe]
  | some i => simp only [Binary64.toJson, x.safe_canonical, safe]

theorem list_survives (item : codec.Survives fit) :
    (list codec).Survives fun items => ∀ v ∈ items, fit v where
  returns items fits := by
    change (list codec).decode (Json.array (items.map codec.encode)).crossed = .ok items
    rw [Json.crossed_array]
    change ((items.map codec.encode).map Json.crossed).mapM codec.decode = .ok items
    induction items with
    | nil => rfl
    | cons v rest ih =>
      have first := item.returns v (fits v List.mem_cons_self)
      have others := ih fun w member => fits w (List.mem_cons_of_mem v member)
      simp only [List.map_cons, List.mapM_cons, first, others]
      rfl
  accepts j values carried read := by
    cases j with
    | array items =>
      intro v member
      obtain ⟨item', among, found⟩ := (mapM_ok codec.decode items values read).2 v member
      exact item.accepts item' v (carried.member among) found
    | _ => cases read

theorem optional_decode (j : Json) (given : j ≠ .null) :
    (optional codec).decode j = (codec.decode j).map some := by
  cases j with
  | null => exact absurd rfl given
  | _ => rfl

-- Nothing is written as `null`, so a value must not be.
theorem optional_survives (value : codec.Survives fit)
    (refuses : ∃ e, codec.decode .null = .error e) :
    (optional codec).Survives fun held => ∀ v ∈ held, fit v where
  returns held fits := by
    cases held with
    | none => rfl
    | some v =>
      have back := value.returns v (fits v rfl)
      have given : (codec.encode v).crossed ≠ .null := by
        intro absent
        obtain ⟨e, refused⟩ := refuses
        rw [absent, refused] at back
        cases back
      change (optional codec).decode (codec.encode v).crossed = .ok (some v)
      rw [optional_decode _ given, back]
      rfl
  accepts j held carried read := by
    by_cases absent : j = .null
    · subst absent
      cases read
      nofun
    · rw [optional_decode j absent] at read
      cases found : codec.decode j with
      | error e => rw [found] at read; cases read
      | ok v =>
        rw [found] at read
        cases read
        rintro _ ⟨⟩
        exact value.accepts j v carried found

theorem list_plain (item : codec.Survives fun _ => True) : (list codec).Survives fun _ => True :=
  .all fun items => (list_survives item).returns items fun _ _ => trivial

theorem optional_plain (value : codec.Survives fun _ => True)
    (refuses : ∃ e, codec.decode .null = .error e) : (optional codec).Survives fun _ => True :=
  .all fun held => (optional_survives value refuses).returns held fun _ _ => trivial

theorem map_survives : map.Survives Json.CarriedFields where
  returns fields fits := by
    have same := Json.crossed_carried (.object fields) fits
    change map.decode (Json.object fields).crossed = .ok fields
    rw [same]
    rfl
  accepts j fields carried read := by
    cases j with
    | object held =>
      cases read
      exact carried
    | _ => cases read

theorem variant_survives (values : List (String × α)) (name : α → String)
    (named : ∀ v, values.lookup (name v) = some v) :
    (variant values name).Survives fun _ => True := by
  refine .all fun v => ?_
  change variant.named values (name v) = .ok v
  rw [variant.named, named v]

theorem coded_decode (what : String) (values : List (Int × α)) (code : α → Int) (j : Json)
    (i : Int) (read : int32.decode j = .ok i) (v : α) (named : values.lookup i = some v) :
    (coded what values code).decode j = .ok v := by
  simp only [coded, read, bind, Except.bind, named]

theorem coded_survives (what : String) (values : List (Int × α)) (code : α → Int)
    (fits : ∀ v, Binary64.fitsInt32 (code v) = true)
    (named : ∀ v, values.lookup (code v) = some v) :
    (coded what values code).Survives fun _ => True := by
  refine .all fun v => ?_
  have written : (coded what values code).encode v = int32.encode (code v) := rfl
  rw [written]
  exact coded_decode what values code _ _ (int32_survives.returns (code v) (fits v)) v (named v)

end HostBridge.Codec
