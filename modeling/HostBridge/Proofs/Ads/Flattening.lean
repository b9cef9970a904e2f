import HostBridge.Proofs.Ads.Members

set_option autoImplicit false

namespace HostBridge

namespace Codec

variable {α : Type}

inductive Told (codec : Codec α) : Option Json → Option α → Prop
  | absent : Told codec none none
  | null : Told codec (some .null) none
  | given (j : Json) (v : α) (read : codec.decode j = .ok v) : Told codec (some j) (some v)

def Passes (codec : Codec α) (shown : Option Json) : Prop :=
  ∀ j, shown = some j → j = .null ∨ ∃ v, codec.decode j = .ok v

variable {codec : Codec α} {shown : Option Json}

theorem reads_optional_iff (refuses : ∃ e, codec.decode .null = .error e) (held : Option α) :
    (optional codec).Reads shown none held ↔ codec.Told shown held := by
  constructor
  · intro reads
    cases shown with
    | none =>
      cases reads
      exact .absent
    | some j =>
      by_cases empty : j = .null
      · subst empty
        cases reads
        exact .null
      · change (optional codec).decode j = .ok held at reads
        rw [optional_decode j empty] at reads
        cases decoded : codec.decode j with
        | error e =>
          rw [decoded] at reads
          cases reads
        | ok v =>
          rw [decoded] at reads
          cases reads
          exact .given j v decoded
  · intro told
    cases told with
    | absent => rfl
    | null => rfl
    | given j v read =>
      have given : j ≠ .null := by
        rintro rfl
        obtain ⟨e, refused⟩ := refuses
        cases refused.symm.trans read
      change (optional codec).decode j = .ok (some v)
      rw [optional_decode j given, read]
      rfl

theorem passes_iff : codec.Passes shown ↔ ∃ held, codec.Told shown held := by
  constructor
  · intro passes
    cases shown with
    | none => exact ⟨none, .absent⟩
    | some j =>
      rcases passes j rfl with rfl | ⟨v, read⟩
      · exact ⟨none, .null⟩
      · exact ⟨some v, .given j v read⟩
  · rintro ⟨held, told⟩ j rfl
    cases told with
    | null => exact .inl rfl
    | given _ v read => exact .inr ⟨v, read⟩

end Codec

def Codec.Matches {α : Type} (codec other : Codec α) : Prop :=
  ∀ j v, codec.decode j = .ok v ↔ other.decode j = .ok v

namespace Codec.Matches

variable {α : Type} {codec other : Codec α} (matched : codec.Matches other)

include matched

theorem optional : (optional codec).Matches (optional other) := by
  have carries : ∀ j held, (codec.decode j).map some = .ok held ↔
      (other.decode j).map some = .ok held := by
    intro j held
    cases decoded : codec.decode j with
    | ok v => rw [(matched j v).1 decoded]
    | error e =>
      cases found : other.decode j with
      | ok v => cases decoded.symm.trans ((matched j v).2 found)
      | error _ => exact iff_of_false nofun nofun
  intro j held
  by_cases empty : j = .null
  · subst empty
    exact Iff.rfl
  · rw [optional_decode j empty, optional_decode j empty]
    exact carries j held

theorem reads_iff (shown : Option Json) (blank v : α) :
    codec.Reads shown blank v ↔ other.Reads shown blank v := by
  cases shown with
  | none => exact Iff.rfl
  | some j => exact matched j v

end Codec.Matches

-- How too long a list is reported has no say in what is accepted.
theorem Record.codec_matches {R : Type} (t : Record R) (limit other : LengthLimit) :
    (t.codec limit).Matches (t.codec other) := by
  intro j x
  cases j with
  | array items =>
    change t.decodeItems limit items = .ok x ↔ t.decodeItems other items = .ok x
    simp only [decodeItems]
    cases takeItems t.fields items t.blank with
    | error e => exact Iff.rfl
    | ok r =>
      simp only [bind, Except.bind]
      split
      · exact Iff.rfl
      · split
        · exact iff_of_false nofun nofun
        · exact Iff.rfl
  | _ => exact Iff.rfl

namespace Ads

theorem RequestOptions.decode_ok_iff (limit other : LengthLimit) (m : KeyMap Json)
    (x : RequestOptions) : (recordWith limit).decodeFields m = .ok x ↔
      (recordWith other).decodeFields m = .ok x := by
  have verification := (ServerSideVerificationOptions.record.codec_matches limit other).optional
  rw [(staged limit).ok_iff, (staged other).ok_iff, List.flatten_singleton, List.flatten_singleton]
  simp only [membersWith, List.forall_mem_cons, Member.Reads, Member.Lacks,
    verification.reads_iff]

namespace NativeAdRequestOptions

theorem decode_direct_iff (m : KeyMap Json) (x : NativeAdRequestOptions) : decode m = .ok x ↔
    RequestOptions.record.decodeFields m = .ok x.request ∧
      Codec.int32.Told (m.view "adChoicesPlacement") x.adChoicesPlacement ∧
      Codec.int32.Told (m.view "aspectRatio") x.aspectRatio ∧
      Codec.boolean.Told (m.view "startVideoMuted") x.startVideoMuted := by
  rw [decode_ok_iff, requestRecord, RequestOptions.decode_ok_iff _ .fewer, ← RequestOptions.record,
    ← Codec.reads_optional_iff ⟨_, rfl⟩, ← Codec.reads_optional_iff ⟨_, rfl⟩,
    ← Codec.reads_optional_iff ⟨_, rfl⟩]
  simp only [ownMembers, List.forall_mem_cons, Member.Reads, Member.Lacks, Bool.false_eq_true,
    false_and, not_false_eq_true, and_true]
  constructor
  · rintro ⟨⟨placement, ratio, muted, _⟩, common⟩
    exact ⟨common, placement, ratio, muted⟩
  · rintro ⟨common, placement, ratio, muted⟩
    exact ⟨⟨placement, ratio, muted, List.forall_mem_nil _⟩, common⟩

end NativeAdRequestOptions

theorem request_is_read_as_alone (args : Arguments) (index : Nat) (fields : KeyMap Value)
    (given : args[index]? = some (.object fields)) :
    ((∃ x, args.decode NativeAdRequestOptions index = .ok x) ↔
      (∃ request, args.decode RequestOptions index = .ok request) ∧
        Codec.int32.Passes (Value.shown? fields "adChoicesPlacement") ∧
        Codec.int32.Passes (Value.shown? fields "aspectRatio") ∧
        Codec.boolean.Passes (Value.shown? fields "startVideoMuted")) ∧
    ∀ x, args.decode NativeAdRequestOptions index = .ok x ↔
      args.decode RequestOptions index = .ok x.request ∧
        Codec.int32.Told (Value.shown? fields "adChoicesPlacement") x.adChoicesPlacement ∧
        Codec.int32.Told (Value.shown? fields "aspectRatio") x.aspectRatio ∧
        Codec.boolean.Told (Value.shown? fields "startVideoMuted") x.startVideoMuted := by
  have read : ∀ x, args.decode NativeAdRequestOptions index = .ok x ↔
      args.decode RequestOptions index = .ok x.request ∧
        Codec.int32.Told (Value.shown? fields "adChoicesPlacement") x.adChoicesPlacement ∧
        Codec.int32.Told (Value.shown? fields "aspectRatio") x.aspectRatio ∧
        Codec.boolean.Told (Value.shown? fields "startVideoMuted") x.startVideoMuted := by
    intro x
    rw [Arguments.decode_ok_iff fields given, Arguments.decode_ok_iff fields given,
      ← Value.view_to_json]
    exact NativeAdRequestOptions.decode_direct_iff _ x
  refine ⟨?_, read⟩
  simp only [Codec.passes_iff]
  constructor
  · rintro ⟨x, decoded⟩
    obtain ⟨common, placement, ratio, muted⟩ := (read x).1 decoded
    exact ⟨⟨_, common⟩, ⟨_, placement⟩, ⟨_, ratio⟩, ⟨_, muted⟩⟩
  · rintro ⟨⟨request, common⟩, ⟨placement, places⟩, ⟨ratio, ratios⟩, ⟨muted, mutes⟩⟩
    exact ⟨⟨request, placement, ratio, muted⟩, (read _).2 ⟨common, places, ratios, mutes⟩⟩

def sampleNativeOptions : KeyMap Value := [
  ("adChoicesPlacement", .number (.ofInt 3)),
  ("aspectRatio", .number ⟨0x7FF8000000000000⟩),
  ("keywords", .array [.string "tea", .string "milk"]),
  ("networkExtras", .object [("gone", .undefined),
    ("inner", .object [("deep", .array [.number (.ofInt 7), .number ⟨0x3FF8000000000000⟩])])]),
  ("serverSideVerificationOptions", .array [.null, .string "order 5"]),
  ("startVideoMuted", .undefined),
  ("unheard", .array [.object []])]

def sampleNativeArguments : Arguments := [.string "unit", .object sampleNativeOptions]

def sampleNativeRead : NativeAdRequestOptions where
  request := { RequestOptions.blank with
    keywords := ["tea", "milk"]
    networkExtras := some [("inner", .object [("deep",
      .array [.int 7, .float ⟨0x3FF8000000000000⟩])])]
    serverSideVerificationOptions := some ⟨none, some "order 5"⟩ }
  adChoicesPlacement := some 3
  aspectRatio := none
  startVideoMuted := none

set_option maxRecDepth 4000 in
theorem sample_request_is_read_as_alone :
    sampleNativeArguments[1]? = some (.object sampleNativeOptions) ∧
    sampleNativeArguments.decode NativeAdRequestOptions 1 = .ok sampleNativeRead ∧
    sampleNativeArguments.decode RequestOptions 1 = .ok sampleNativeRead.request ∧
    Codec.int32.Told (Value.shown? sampleNativeOptions "adChoicesPlacement") (some 3) ∧
    Codec.int32.Told (Value.shown? sampleNativeOptions "aspectRatio") none ∧
    Codec.boolean.Told (Value.shown? sampleNativeOptions "startVideoMuted") none := by
  have decoded : sampleNativeArguments.decode NativeAdRequestOptions 1 = .ok sampleNativeRead := rfl
  exact ⟨rfl, decoded,
    ((request_is_read_as_alone sampleNativeArguments 1 sampleNativeOptions rfl).2 _).1 decoded⟩

end Ads

end HostBridge
