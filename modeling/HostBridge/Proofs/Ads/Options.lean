import HostBridge.Ads.Options
import HostBridge.Proofs.Decode.Arguments

set_option autoImplicit false

namespace HostBridge.Ads

open Codec

section Fields

theorem text_survives : (optional string).Survives fun _ => True :=
  optional_plain string_survives ⟨_, rfl⟩

theorem texts_survive : (list string).Survives fun _ => True := list_plain string_survives

theorem flag_survives : (optional boolean).Survives fun _ => True :=
  optional_plain boolean_survives ⟨_, rfl⟩

theorem small_survives :
    (optional int32).Survives fun held => ∀ i ∈ held, Binary64.fitsInt32 i = true :=
  optional_survives int32_survives ⟨_, rfl⟩

theorem rating_survives : ContentRating.codec.Survives fun _ => True :=
  variant_survives _ _ fun rating => by cases rating <;> decide

theorem geography_survives : DebugGeography.codec.Survives fun _ => True :=
  coded_survives _ _ _ (fun geography => by cases geography <;> decide)
    fun geography => by cases geography <;> decide

theorem status_survives : ConsentStatus.codec.Survives fun _ => True :=
  variant_survives _ _ fun status => by cases status <;> decide

theorem requirement_survives : PrivacyOptionsRequirement.codec.Survives fun _ => True :=
  variant_survives _ _ fun requirement => by cases requirement <;> decide

end Fields

theorem ServerSideVerificationOptions.survives : record.Survives fun _ => True :=
  .plain (by decide) fun _ =>
    .field text_survives trivial <| .field text_survives trivial <| .done _

theorem ShowOptions.survives : record.Survives fun _ => True :=
  .plain (by decide) fun _ => .field boolean_survives trivial <| .done _

theorem RequestConfiguration.survives : record.Survives fun _ => True :=
  .plain (by decide) fun _ =>
    .field (optional_plain rating_survives ⟨_, rfl⟩) trivial <|
    .field flag_survives trivial <| .field flag_survives trivial <|
    .field texts_survive trivial <| .done _

theorem ConsentRequestOptions.survives : record.Survives fun _ => True :=
  .plain (by decide) fun _ =>
    .field geography_survives trivial <| .field boolean_survives trivial <|
    .field texts_survive trivial <| .done _

theorem ConsentInfo.survives : record.Survives fun _ => True :=
  .plain (by decide) fun _ =>
    .field boolean_survives trivial <| .field boolean_survives trivial <|
    .field requirement_survives trivial <| .field status_survives trivial <| .done _

def RequestOptions.Fit (x : RequestOptions) : Prop :=
  ∀ extras ∈ x.networkExtras, Json.CarriedFields extras

theorem RequestOptions.ascending_names {α : Type} (npa words content near agent extras ssv : α) :
    KeyMap.ofList [("requestNonPersonalizedAdsOnly", npa), ("keywords", words),
      ("contentUrl", content), ("neighboringContentUrls", near), ("requestAgent", agent),
      ("networkExtras", extras), ("serverSideVerificationOptions", ssv)] =
    [("contentUrl", content), ("keywords", words), ("neighboringContentUrls", near),
      ("networkExtras", extras), ("requestAgent", agent), ("requestNonPersonalizedAdsOnly", npa),
      ("serverSideVerificationOptions", ssv)] := by
  simp only [KeyMap.ofList, KeyMap.insert, List.foldl_cons, List.foldl_nil, String.reduceLT,
    String.reduceEq, if_true, if_false]

theorem RequestOptions.survives (limit : LengthLimit) :
    (recordWith limit).Survives RequestOptions.Fit where
  distinct := (by decide : (record.fields.map Field.name).Nodup)
  copied x fits := by
    have order : (recordWith limit).ascending = _ := ascending_names _ _ _ _ _ _ _
    rw [order]
    exact .field text_survives trivial <| .field texts_survive trivial <|
      .field texts_survive trivial <| .field (optional_survives map_survives ⟨_, rfl⟩) fits <|
      .field text_survives trivial <| .field boolean_survives trivial <|
      .field (optional_plain (ServerSideVerificationOptions.survives.codec limit) ⟨_, rfl⟩)
        trivial <| .done _
  fresh := nofun
  keeps := by
    simp only [recordWith, List.forall_mem_cons]
    refine ⟨?_, ?_, ?_, ?_, ?_, ?_, ?_, nofun⟩
    · exact Field.of_codec_keeps boolean_survives fun _ _ _ => id
    · exact Field.of_codec_keeps texts_survive fun _ _ _ => id
    · exact Field.of_codec_keeps text_survives fun _ _ _ => id
    · exact Field.of_codec_keeps texts_survive fun _ _ _ => id
    · exact Field.of_codec_keeps text_survives fun _ _ _ => id
    · exact Field.of_codec_keeps (optional_survives map_survives ⟨_, rfl⟩) fun _ _ fits _ => fits
    · exact Field.of_codec_keeps
        (optional_plain (ServerSideVerificationOptions.survives.codec limit) ⟨_, rfl⟩)
        fun _ _ _ => id

namespace NativeAdRequestOptions

def Fit (x : NativeAdRequestOptions) : Prop :=
  x.request.Fit ∧ (∀ i ∈ x.adChoicesPlacement, Binary64.fitsInt32 i = true) ∧
    ∀ i ∈ x.aspectRatio, Binary64.fitsInt32 i = true

def OwnFit (x : NativeAdRequestOptions) : Prop := x.request = .blank ∧ x.Fit

theorem blank_request : RequestOptions.blank.Fit := nofun

theorem own_survives : ownRecord.Survives OwnFit where
  distinct := by decide
  copied := by
    rintro ⟨request, placement, ratio, muted⟩ ⟨rfl, _, places, ratios⟩
    exact .field small_survives places <| .field small_survives ratios <|
      .field flag_survives trivial <| .done _
  fresh := ⟨rfl, blank_request, nofun, nofun⟩
  keeps := by
    simp only [ownRecord, List.forall_mem_cons]
    refine ⟨?_, ?_, ?_, nofun⟩
    · exact Field.of_codec_keeps small_survives
        fun _ _ fits ⟨request, common, _, ratios⟩ => ⟨request, common, fits, ratios⟩
    · exact Field.of_codec_keeps small_survives
        fun _ _ fits ⟨request, common, places, _⟩ => ⟨request, common, places, fits⟩
    · exact Field.of_codec_keeps flag_survives fun _ _ _ => id

def entries (x : NativeAdRequestOptions) : List (String × Json) :=
  requestRecord.encodeFields x.request ++ ownRecord.encodeFields x

def names : List String :=
  requestRecord.fields.map Field.name ++ ownRecord.fields.map Field.name

theorem names_distinct : names.Nodup := by decide

theorem entry_names (x : NativeAdRequestOptions) : x.entries.map Prod.fst = names := by
  rw [entries, List.map_append, Record.encoded_names, Record.encoded_names, names]

theorem entries_distinct (x : NativeAdRequestOptions) : (x.entries.map Prod.fst).Nodup :=
  x.entry_names ▸ names_distinct

theorem request_arrives (x : NativeAdRequestOptions) :
    requestRecord.Arrived x.request (Json.crossedFields (KeyMap.ofList x.entries)) := by
  apply Record.arrived_of_entries x.entries x.entries_distinct
  intro f member
  exact List.mem_append_left _ (List.mem_map_of_mem member)

theorem own_arrives (x : NativeAdRequestOptions) :
    ownRecord.Arrived { x with request := .blank }
      (Json.crossedFields (KeyMap.ofList x.entries)) := by
  have same : ownRecord.encodeFields { x with request := .blank } = ownRecord.encodeFields x := rfl
  apply Record.arrived_of_entries x.entries x.entries_distinct
  intro f member
  apply List.mem_append_right
  rw [← same]
  exact List.mem_map_of_mem member

theorem request_of_leftover (m : KeyMap Json) :
    requestRecord.decodeFields (leftover m) = requestRecord.decodeFields m := by
  have apart : ∀ f ∈ requestRecord.fields,
      (!(ownRecord.fields.map Field.name).contains f.name) = true := by
    have names : ∀ name ∈ requestRecord.fields.map Field.name,
        (!(ownRecord.fields.map Field.name).contains name) = true := by decide
    exact fun f declared => names f.name (List.mem_map_of_mem declared)
  apply Record.decode_fields_congr
  intro f declared
  exact KeyMap.lookup_filter (fun name => !(ownRecord.fields.map Field.name).contains name) m
    f.name (apart f declared)

theorem decode_beside (m : KeyMap Json) : decode m = (do
    let own ← ownRecord.decodeFields m
    let request ← requestRecord.decodeFields m
    .ok { own with request := request }) := by
  simp only [decode, request_of_leftover]

theorem decode_crossed (x : NativeAdRequestOptions) (fits : x.Fit) :
    decode (Json.crossedFields (KeyMap.ofList x.entries)) = .ok x := by
  have request := x.request_arrives.decode ((RequestOptions.survives _).copied x.request fits.1)
  have own := x.own_arrives.decode (own_survives.copied _ ⟨rfl, blank_request, fits.2⟩)
  simp only [decode_beside, own, request, bind, Except.bind]

theorem decode_fit (m : KeyMap Json) (carried : Json.CarriedFields m)
    (x : NativeAdRequestOptions) (decoded : decode m = .ok x) : x.Fit := by
  rw [decode_beside] at decoded
  obtain ⟨own, ofOwn, decoded⟩ := bind_ok decoded
  obtain ⟨request, ofRequest, decoded⟩ := bind_ok decoded
  cases decoded
  have common := (RequestOptions.survives _).accepts carried ofRequest
  have rest := own_survives.accepts carried ofOwn
  exact ⟨common, rest.2.2⟩

end NativeAdRequestOptions

namespace NativeAd

def Fit (x : NativeAd) : Prop := ∀ rating ∈ x.starRating, rating.isFinite = true

-- The same asset, its rating without the sign of a zero.
def settle (x : NativeAd) : NativeAd :=
  { x with starRating := x.starRating.map Binary64.canonical }

def Settled (x : NativeAd) : Prop :=
  ∀ rating ∈ x.starRating, rating.isFinite = true ∧ rating.canonical = rating

theorem survives : record.Survives Settled where
  distinct := by decide
  copied x fits :=
    .field text_survives trivial <| .field text_survives trivial <|
    .field text_survives trivial <| .field string_survives trivial <|
    .field text_survives trivial <| .field string_survives trivial <|
    .field (optional_survives number_survives ⟨_, rfl⟩) fits <|
    .field text_survives trivial <| .done _
  fresh := nofun
  keeps := by
    simp only [record, List.forall_mem_cons]
    refine ⟨?_, ?_, ?_, ?_, ?_, ?_, ?_, ?_, nofun⟩
    · exact Field.of_codec_keeps string_survives fun _ _ _ => id
    · exact Field.of_codec_keeps string_survives fun _ _ _ => id
    · exact Field.of_codec_keeps text_survives fun _ _ _ => id
    · exact Field.of_codec_keeps text_survives fun _ _ _ => id
    · exact Field.of_codec_keeps text_survives fun _ _ _ => id
    · exact Field.of_codec_keeps (optional_survives number_survives ⟨_, rfl⟩)
        fun _ _ fits _ => fits
    · exact Field.of_codec_keeps text_survives fun _ _ _ => id
    · exact Field.of_codec_keeps text_survives fun _ _ _ => id

theorem settled (x : NativeAd) (fits : x.Fit) : x.settle.Settled := by
  intro rating held
  obtain ⟨given, among, rfl⟩ := Option.map_eq_some_iff.1 held
  exact ⟨given.canonical_finite (fits given among), given.canonical_twice⟩

theorem settle_settled (x : NativeAd) (settled : x.Settled) : x.settle = x := by
  obtain ⟨_, _, _, _, _, rating, _, _⟩ := x
  cases rating with
  | none => rfl
  | some given =>
    have same : given.canonical = given := (settled given rfl).2
    simp only [settle, Option.map_some, same]

theorem rating_settled (x : NativeAd) (fits : x.Fit) :
    ((optional number).encode x.settle.starRating).crossed =
      ((optional number).encode x.starRating).crossed := by
  obtain ⟨_, _, _, _, _, rating, _, _⟩ := x
  cases rating with
  | none => rfl
  | some given => exact number_canonical given (fits given rfl)

theorem settled_arrives (x : NativeAd) (fits : x.Fit) :
    record.Arrived x.settle (Json.crossedFields (KeyMap.ofList (record.encodeFields x))) := by
  have same : ∀ f ∈ record.fields, (f.encode x.settle).crossed = (f.encode x).crossed := by
    simp only [record, List.forall_mem_cons]
    exact ⟨rfl, rfl, rfl, rfl, rfl, x.rating_settled fits, rfl, rfl, nofun⟩
  intro f member
  rw [same f member]
  exact survives.arrives x f member

end NativeAd

/-- The types that are options or results of the ad methods, each with the names of its fields, the
records that are fit to cross and what these are on the other side. -/
theorem options_and_results_cross_the_bridge :
    Crosses RequestOptions ["requestNonPersonalizedAdsOnly", "keywords", "contentUrl",
      "neighboringContentUrls", "requestAgent", "networkExtras", "serverSideVerificationOptions"]
      RequestOptions.Fit id ∧
    Crosses ServerSideVerificationOptions ["userId", "customData"] (fun _ => True) id ∧
    Crosses ShowOptions ["immersiveModeEnabled"] (fun _ => True) id ∧
    Crosses RequestConfiguration ["maxAdContentRating", "tagForChildDirectedTreatment",
      "tagForUnderAgeOfConsent", "testDeviceIdentifiers"] (fun _ => True) id ∧
    Crosses ConsentRequestOptions ["debugGeography", "tagForUnderAgeOfConsent", "testIdentifiers"]
      (fun _ => True) id ∧
    Crosses NativeAdRequestOptions ["requestNonPersonalizedAdsOnly", "keywords", "contentUrl",
      "neighboringContentUrls", "requestAgent", "networkExtras", "serverSideVerificationOptions",
      "adChoicesPlacement", "aspectRatio", "startVideoMuted"] NativeAdRequestOptions.Fit id ∧
    Crosses ConsentInfo ["status", "canRequestAds", "privacyOptionsRequirementStatus",
      "isConsentFormAvailable"] (fun _ => True) id ∧
    Crosses NativeAd ["responseId", "headline", "body", "advertiser", "callToAction", "starRating",
      "price", "store"] NativeAd.Fit NativeAd.settle := by
  refine ⟨.of_record _ (RequestOptions.survives _) rfl (fun _ => rfl) fun _ => rfl,
    .of_record _ ServerSideVerificationOptions.survives rfl (fun _ => rfl) fun _ => rfl,
    .of_record _ ShowOptions.survives rfl (fun _ => rfl) fun _ => rfl,
    .of_record _ RequestConfiguration.survives rfl (fun _ => rfl) fun _ => rfl,
    .of_record _ ConsentRequestOptions.survives rfl (fun _ => rfl) fun _ => rfl, ?_,
    .of_record _ ConsentInfo.survives rfl (fun _ => rfl) fun _ => rfl, ?_⟩
  · exact .of_entries NativeAdRequestOptions.entries NativeAdRequestOptions.names_distinct
      NativeAdRequestOptions.entry_names (fun _ => rfl)
      ⟨⟨NativeAdRequestOptions.blank_request, nofun, nofun⟩, rfl⟩
      NativeAdRequestOptions.decode_crossed
      fun m x carried decoded => ⟨NativeAdRequestOptions.decode_fit m carried x decoded, rfl⟩
  · apply Crosses.of_entries NativeAd.record.encodeFields NativeAd.survives.distinct
      NativeAd.record.encoded_names (fun _ => rfl) ⟨nofun, rfl⟩
    · intro x fits
      exact (x.settled_arrives fits).decode (NativeAd.survives.copied _ (x.settled fits))
    · intro m x carried decoded
      have settled := NativeAd.survives.accepts carried decoded
      exact ⟨fun rating held => (settled rating held).1, x.settle_settled settled⟩

end HostBridge.Ads
