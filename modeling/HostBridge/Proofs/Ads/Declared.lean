import HostBridge.Proofs.Ads.Members

set_option autoImplicit false

namespace HostBridge

inductive Agree (inner : List (String × List String)) (fields others : KeyMap Value)
    (name : String) : Prop
  | same (shown : Value.shown? fields name = Value.shown? others name)
  | inside (names : List String) (listed : inner.lookup name = some names)
      (held other : KeyMap Value)
      (here : (Value.defined fields).lookup name = some (.object held))
      (there : (Value.defined others).lookup name = some (.object other))
      (agree : ∀ key ∈ names, Value.shown? held key = Value.shown? other key)

def Member.Deep {R : Type} (inner : List (String × List String)) (p : Member R) : Prop :=
  ∀ names, inner.lookup p.name = some names → ∀ m n : KeyMap Json,
    (∀ key ∈ names, m.view key = n.view key) →
      p.codec.decode (.object m) = p.codec.decode (.object n)

theorem Member.deep_of_unlisted {R : Type} {inner : List (String × List String)} {p : Member R}
    (unlisted : inner.lookup p.name = none) : p.Deep inner := by
  intro names listed
  rw [unlisted] at listed
  cases listed

theorem Agree.alike {R : Type} {inner : List (String × List String)} {fields others : KeyMap Value}
    {p : Member R} (deep : p.Deep inner) (agree : Agree inner fields others p.name) :
    p.Alike (Value.shown? fields) (Value.shown? others) := by
  cases agree with
  | same shown => exact .inl shown
  | inside names listed held other here there agree =>
    refine .inr ⟨.object (Value.fieldsToJson held), .object (Value.fieldsToJson other), ?_, ?_, ?_⟩
    · rw [Value.shown?, here]
      rfl
    · rw [Value.shown?, there]
      rfl
    · apply deep names listed
      rw [Value.view_to_json, Value.view_to_json]
      exact agree

structure DependsOn (T : Type) [Decodable T] (stages : List (List (Member T)))
    (inner : List (String × List String)) : Prop where
  agree : ∀ (args others : Arguments) (index : Nat) (fields given : KeyMap Value),
    args[index]? = some (.object fields) → others[index]? = some (.object given) →
    (∀ p ∈ stages.flatten, Agree inner fields given p.name) →
    args.decode T index = others.decode T index
  reads : ∀ (args : Arguments) (index : Nat) (fields : KeyMap Value) (x : T),
    args[index]? = some (.object fields) → (args.decode T index = .ok x ↔
      ∀ p ∈ stages.flatten,
        p.Reads (Value.shown? fields) Decodable.blank x ∧ ¬ p.Lacks (Value.shown? fields))
  defaults : ∀ (args : Arguments) (index : Nat) (fields : KeyMap Value) (x : T),
    args[index]? = some (.object fields) → args.decode T index = .ok x →
    ∀ p ∈ stages.flatten, Value.shown? fields p.name = none → p.part x = p.part Decodable.blank
  required : ∀ (args : Arguments) (index : Nat) (fields : KeyMap Value),
    args[index]? = some (.object fields) → ∀ p ∈ stages.flatten, p.isRequired = true →
    Value.shown? fields p.name = none → ∃ f, args.decode T index = .error f

structure Defaults (T : Type) [Decodable T] (stages : List (List (Member T))) : Prop where
  absent : ∀ (args : Arguments) (index : Nat), args.isAbsent index = true →
    args.decode T index = .ok Decodable.blank
  unnamed : ∀ (args : Arguments) (index : Nat) (fields : KeyMap Value),
    args[index]? = some (.object fields) →
    (∀ p ∈ stages.flatten, Value.shown? fields p.name = none) →
    args.decode T index = .ok Decodable.blank

namespace Staged

variable {T : Type} [Decodable T] {stages : List (List (Member T))}
  (staged : Staged (Decodable.decode (T := T)) Decodable.blank stages)

include staged

theorem depends {inner : List (String × List String)}
    (deep : ∀ p ∈ stages.flatten, p.Deep inner) : DependsOn T stages inner where
  agree args others index fields given here there agree := by
    have same : Decodable.decode (T := T) (Value.fieldsToJson fields) =
        Decodable.decode (Value.fieldsToJson given) := by
      apply staged.decode_congr
      intro p member
      rw [Value.view_to_json, Value.view_to_json]
      exact (agree p member).alike (deep p member)
    rw [Arguments.decode_given fields here, Arguments.decode_given given there, same]
  reads args index fields x given := staged.read_ok_iff fields given x
  defaults args index fields x given decoded p member absent := by
    have reads := ((staged.read_ok_iff fields given x).1 decoded p member).1
    rw [Member.Reads, absent] at reads
    exact reads
  required args index fields given p member needed absent := by
    cases decoded : args.decode T index with
    | error f => exact ⟨f, rfl⟩
    | ok x =>
      have complete := ((staged.read_ok_iff fields given x).1 decoded p member).2
      exact absurd ⟨needed, absent⟩ complete

theorem has_defaults (free : ∀ p ∈ stages.flatten, p.isRequired = false) : Defaults T stages where
  absent args index absent := by
    rw [Arguments.decode, Arguments.optional, if_pos absent]
    rfl
  unnamed args index fields given unnamed := by
    apply (staged.read_ok_iff fields given _).2
    intro p member
    constructor
    · rw [Member.Reads, unnamed p member]
      rfl
    · rintro ⟨needed, _⟩
      rw [free p member] at needed
      cases needed

end Staged

namespace Ads

def verificationNames : List (String × List String) :=
  [("serverSideVerificationOptions", ServerSideVerificationOptions.record.fields.map Field.name)]

theorem RequestOptions.deep (limit : LengthLimit) :
    ∀ p ∈ membersWith limit, p.Deep verificationNames := by
  simp only [membersWith, List.forall_mem_cons]
  refine ⟨Member.deep_of_unlisted rfl, Member.deep_of_unlisted rfl, Member.deep_of_unlisted rfl,
    Member.deep_of_unlisted rfl, Member.deep_of_unlisted rfl, Member.deep_of_unlisted rfl, ?_,
    List.forall_mem_nil _⟩
  intro names listed m n agree
  cases listed
  have same : ServerSideVerificationOptions.record.decodeFields m =
      ServerSideVerificationOptions.record.decodeFields n := by
    apply ServerSideVerificationOptions.staged.decode_congr
    intro p member
    rw [List.flatten_singleton] at member
    apply Or.inl
    apply agree
    rw [ServerSideVerificationOptions.declares.names]
    exact List.mem_map_of_mem member
  change (ServerSideVerificationOptions.record.decodeFields m).map some =
    (ServerSideVerificationOptions.record.decodeFields n).map some
  rw [same]

theorem reading_depends_on_declared_fields :
    DependsOn RequestOptions [RequestOptions.members] verificationNames ∧
    DependsOn ServerSideVerificationOptions [ServerSideVerificationOptions.members] [] ∧
    DependsOn ShowOptions [ShowOptions.members] [] ∧
    DependsOn RequestConfiguration [RequestConfiguration.members] [] ∧
    DependsOn ConsentRequestOptions [ConsentRequestOptions.members] [] ∧
    DependsOn NativeAdRequestOptions
      [NativeAdRequestOptions.ownMembers, NativeAdRequestOptions.requestMembers]
      verificationNames ∧
    DependsOn ConsentInfo [ConsentInfo.members] [] ∧
    DependsOn NativeAd [NativeAd.members] [] ∧
    Defaults RequestOptions [RequestOptions.members] ∧
    Defaults ServerSideVerificationOptions [ServerSideVerificationOptions.members] ∧
    Defaults ShowOptions [ShowOptions.members] ∧
    Defaults RequestConfiguration [RequestConfiguration.members] ∧
    Defaults ConsentRequestOptions [ConsentRequestOptions.members] ∧
    Defaults NativeAdRequestOptions
      [NativeAdRequestOptions.ownMembers, NativeAdRequestOptions.requestMembers] := by
  have request : ∀ p ∈ [RequestOptions.members].flatten, p.Deep verificationNames :=
    RequestOptions.deep .fewer
  have native : ∀ p ∈ [NativeAdRequestOptions.ownMembers,
      NativeAdRequestOptions.requestMembers].flatten, p.Deep verificationNames := by
    rw [List.flatten_cons, List.flatten_singleton, List.forall_mem_append,
      NativeAdRequestOptions.requestMembers, List.forall_mem_map]
    refine ⟨?_, RequestOptions.deep (.exactly 2)⟩
    simp only [NativeAdRequestOptions.ownMembers, List.forall_mem_cons]
    exact ⟨Member.deep_of_unlisted rfl, Member.deep_of_unlisted rfl, Member.deep_of_unlisted rfl,
      List.forall_mem_nil _⟩
  exact ⟨(RequestOptions.staged .fewer).depends request,
    ServerSideVerificationOptions.staged.depends fun _ _ => Member.deep_of_unlisted rfl,
    ShowOptions.staged.depends fun _ _ => Member.deep_of_unlisted rfl,
    RequestConfiguration.staged.depends fun _ _ => Member.deep_of_unlisted rfl,
    ConsentRequestOptions.staged.depends fun _ _ => Member.deep_of_unlisted rfl,
    NativeAdRequestOptions.staged.depends native,
    ConsentInfo.staged.depends fun _ _ => Member.deep_of_unlisted rfl,
    NativeAd.staged.depends fun _ _ => Member.deep_of_unlisted rfl,
    (RequestOptions.staged .fewer).has_defaults (by decide),
    ServerSideVerificationOptions.staged.has_defaults (by decide),
    ShowOptions.staged.has_defaults (by decide),
    RequestConfiguration.staged.has_defaults (by decide),
    ConsentRequestOptions.staged.has_defaults (by decide),
    NativeAdRequestOptions.staged.has_defaults (by decide)⟩

set_option maxRecDepth 4000 in
example : Arguments.decode RequestOptions [.object [("contentUrl", .undefined), ("other", .null),
      ("serverSideVerificationOptions",
        .object [("extra", .bool true), ("userId", .string "u")])]] 0 =
    .ok { RequestOptions.blank with serverSideVerificationOptions := some ⟨some "u", none⟩ } := rfl

end Ads

end HostBridge
