import HostBridge.Proofs.Decode.Arguments
import HostBridge.Proofs.Decode.Member

set_option autoImplicit false

namespace HostBridge

namespace Value

def defined (fields : KeyMap Value) : KeyMap Value :=
  fields.filter fun entry => !entry.2.isUndefined

def shown? (fields : KeyMap Value) (name : String) : Option Json :=
  ((defined fields).lookup name).map toJson

theorem fields_to_json_defined (fields : KeyMap Value) :
    fieldsToJson fields = (defined fields).map fun entry => (entry.1, entry.2.toJson) := by
  induction fields with
  | nil => rfl
  | cons entry rest ih =>
    obtain ⟨name, value⟩ := entry
    rw [fieldsToJson, defined, List.filter_cons, ih]
    cases value.isUndefined <;> rfl

theorem view_to_json (fields : KeyMap Value) :
    KeyMap.view (fieldsToJson fields) = shown? fields := by
  funext name
  rw [KeyMap.view, fields_to_json_defined, KeyMap.lookup_map fun _ => toJson]
  rfl

end Value

inductive FirstFault {R : Type} (view : String → Option Json) :
    List (List (Member R)) → DecodeError → Prop
  | here {stage : List (Member R)} {later : List (List (Member R))} {e : DecodeError}
      (fault : Fault stage view e) : FirstFault view (stage :: later) e
  | later {stage : List (Member R)} {later : List (List (Member R))} {e : DecodeError}
      (sound : ∀ other, ¬ Fault stage view other) (next : FirstFault view later e) :
      FirstFault view (stage :: later) e

section Faults

variable {R : Type} {view other : String → Option Json} {stages : List (List (Member R))}

theorem FirstFault.exists_iff : (∃ e, FirstFault view stages e) ↔
    ∃ p ∈ stages.flatten, (∃ e, p.Refuses view e) ∨ p.Lacks view := by
  induction stages with
  | nil => exact iff_of_false nofun nofun
  | cons stage later ih =>
    simp only [List.flatten_cons, List.mem_append, or_and_right, exists_or, ← ih,
      ← Fault.exists_iff]
    constructor
    · rintro ⟨e, fault⟩
      cases fault with
      | here fault => exact .inl ⟨e, fault⟩
      | later _ next => exact .inr ⟨e, next⟩
    · intro either
      by_cases here : ∃ e, Fault stage view e
      · exact here.imp fun _ => .here
      · obtain ⟨e, next⟩ := either.resolve_left here
        exact ⟨e, .later (fun e fault => here ⟨e, fault⟩) next⟩

theorem FirstFault.blames {e : DecodeError} (fault : FirstFault view stages e) :
    ∃ p ∈ stages.flatten, p.Refuses view e ∨ p.Lacks view := by
  induction fault with
  | here fault =>
    cases fault with
    | refused p _ member refuses _ =>
      exact ⟨p, List.mem_append_left _ member, .inl refuses⟩
    | missing before p after split _ lacks _ =>
      exact ⟨p, List.mem_append_left _ (split ▸ by simp), .inr lacks⟩
  | later _ _ ih =>
    obtain ⟨p, member, cause⟩ := ih
    exact ⟨p, List.mem_append_right _ member, cause⟩

theorem FirstFault.congr (alike : ∀ p ∈ stages.flatten, p.Alike view other) {e : DecodeError}
    (fault : FirstFault view stages e) : FirstFault other stages e := by
  induction fault with
  | here fault =>
    exact .here (fault.congr fun p member => alike p (List.mem_append_left _ member))
  | later sound _ ih =>
    have same := fun p member => alike p (List.mem_append_left _ member)
    refine .later (fun e fault => sound e (fault.congr fun p member => (same p member).symm)) ?_
    exact ih fun p member => alike p (List.mem_append_right _ member)

theorem FirstFault.only {members : List (Member R)} {e : DecodeError} :
    FirstFault view [members] e ↔ Fault members view e := by
  refine ⟨fun fault => ?_, .here⟩
  cases fault with
  | here fault => exact fault
  | later _ next => cases next

end Faults

structure Staged {R : Type} (decode : KeyMap Json → Except DecodeError R) (blank : R)
    (stages : List (List (Member R))) : Prop where
  ok_iff : ∀ (m : KeyMap Json) (x : R), decode m = .ok x ↔
    ∀ p ∈ stages.flatten, p.Reads m.view blank x ∧ ¬ p.Lacks m.view
  error_iff : ∀ (m : KeyMap Json) (e : DecodeError),
    decode m = .error e ↔ FirstFault m.view stages e

theorem Record.Declares.staged {R : Type} {t : Record R} {members : List (Member R)}
    (declares : t.Declares members) (composes : t.Composes members) :
    Staged t.decodeFields t.blank [members] where
  ok_iff m x := by
    rw [declares.decode_fields_iff, composes m x, List.flatten_singleton]
    exact forall₂_and.symm
  error_iff m e := by rw [declares.decode_error_iff, FirstFault.only]

namespace Staged

theorem decode_congr {R : Type} {decode : KeyMap Json → Except DecodeError R} {blank : R}
    {stages : List (List (Member R))} (staged : Staged decode blank stages) {m n : KeyMap Json}
    (alike : ∀ p ∈ stages.flatten, p.Alike m.view n.view) : decode m = decode n := by
  cases decoded : decode m with
  | ok x =>
    refine ((staged.ok_iff n x).2 fun p member => ?_).symm
    obtain ⟨reads, complete⟩ := (staged.ok_iff m x).1 decoded p member
    exact ⟨((alike p member).reads_iff _ x).1 reads,
      fun lacks => complete ((alike p member).lacks_iff.2 lacks)⟩
  | error e =>
    exact ((staged.error_iff n e).2 (((staged.error_iff m e).1 decoded).congr alike)).symm

section Reading

variable {T : Type} [Decodable T] {stages : List (List (Member T))}
  (staged : Staged (Decodable.decode (T := T)) Decodable.blank stages) {args : Arguments}
  {index : Nat} (fields : KeyMap Value) (given : args[index]? = some (.object fields))

include staged given

theorem read_ok_iff (x : T) : args.decode T index = .ok x ↔
    ∀ p ∈ stages.flatten,
      p.Reads (Value.shown? fields) Decodable.blank x ∧ ¬ p.Lacks (Value.shown? fields) := by
  rw [Arguments.decode_ok_iff fields given, staged.ok_iff, Value.view_to_json]

theorem read_error_iff (f : Failure) : args.decode T index = .error f ↔
    ∃ e, FirstFault (Value.shown? fields) stages e ∧
      f = .invalidOptions s!"argument {index}: {e.message}" := by
  simp only [Arguments.decode_error_iff fields given, staged.error_iff, Value.view_to_json]

end Reading

end Staged

end HostBridge
