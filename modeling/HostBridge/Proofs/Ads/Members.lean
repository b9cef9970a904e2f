import HostBridge.Proofs.Ads.Options
import HostBridge.Proofs.Decode.Stages

set_option autoImplicit false

namespace HostBridge.Ads

open HostBridge.Field (of_codec_fills)
open HostBridge.Record (Spells)

namespace ServerSideVerificationOptions

def members : List (Member ServerSideVerificationOptions) := [
  ⟨"userId", false, _, .optional .string, userId⟩,
  ⟨"customData", false, _, .optional .string, customData⟩]

theorem declares : record.Declares members :=
  ⟨.cons of_codec_fills <| .cons of_codec_fills .nil, by decide⟩

theorem composes : record.Composes members := by
  intro m x
  apply Iff.trans <| Spells.take_fields <|
    .field rfl fun _ => .field rfl fun _ => .done _
  simp only [members, List.forall_mem_cons]
  constructor
  · rintro ⟨_, custom, _, user, rfl⟩
    exact ⟨user, custom, nofun⟩
  · rintro ⟨user, custom, _⟩
    exact ⟨_, custom, _, user, rfl⟩

theorem staged : Staged record.decodeFields blank [members] := declares.staged composes

end ServerSideVerificationOptions

namespace RequestOptions

def membersWith (limit : LengthLimit) : List (Member RequestOptions) := [
  ⟨"requestNonPersonalizedAdsOnly", false, _, .boolean, requestNonPersonalizedAdsOnly⟩,
  ⟨"keywords", false, _, .list .string, keywords⟩,
  ⟨"contentUrl", false, _, .optional .string, contentUrl⟩,
  ⟨"neighboringContentUrls", false, _, .list .string, neighboringContentUrls⟩,
  ⟨"requestAgent", false, _, .optional .string, requestAgent⟩,
  ⟨"networkExtras", false, _, .optional .map, networkExtras⟩,
  ⟨"serverSideVerificationOptions", false, _,
    .optional (ServerSideVerificationOptions.record.codec limit), serverSideVerificationOptions⟩]

def members : List (Member RequestOptions) := membersWith .fewer

variable (limit : LengthLimit)

theorem declares : (recordWith limit).Declares (membersWith limit) where
  fills := .cons of_codec_fills <| .cons of_codec_fills <| .cons of_codec_fills <|
    .cons of_codec_fills <| .cons of_codec_fills <| .cons of_codec_fills <|
    .cons of_codec_fills .nil
  distinct := (by decide : (members.map Member.name).Nodup)

theorem composes : (recordWith limit).Composes (membersWith limit) := by
  intro m x
  have order : (recordWith limit).ascending = _ := ascending_names _ _ _ _ _ _ _
  rw [order]
  apply Iff.trans <| Spells.take_fields <|
    .field rfl fun _ => .field rfl fun _ => .field rfl fun _ => .field rfl fun _ =>
      .field rfl fun _ => .field rfl fun _ => .field rfl fun _ => .done _
  simp only [membersWith, List.forall_mem_cons]
  constructor
  · rintro ⟨_, content, _, words, _, near, _, extras, _, agent, _, npa, _, ssv, rfl⟩
    exact ⟨npa, words, content, near, agent, extras, ssv, nofun⟩
  · rintro ⟨npa, words, content, near, agent, extras, ssv, _⟩
    exact ⟨_, content, _, words, _, near, _, extras, _, agent, _, npa, _, ssv, rfl⟩

theorem staged : Staged (recordWith limit).decodeFields blank [membersWith limit] :=
  (declares limit).staged (composes limit)

end RequestOptions

namespace ShowOptions

def members : List (Member ShowOptions) := [
  ⟨"immersiveModeEnabled", false, _, .boolean, immersiveModeEnabled⟩]

theorem declares : record.Declares members := ⟨.cons of_codec_fills .nil, by decide⟩

theorem composes : record.Composes members := by
  intro m x
  apply Iff.trans <| Spells.take_fields <|
    .field rfl fun _ => .done _
  simp only [members, List.forall_mem_cons]
  constructor
  · rintro ⟨_, immersive, rfl⟩
    exact ⟨immersive, nofun⟩
  · rintro ⟨immersive, _⟩
    exact ⟨_, immersive, rfl⟩

theorem staged : Staged record.decodeFields blank [members] := declares.staged composes

end ShowOptions

namespace RequestConfiguration

def members : List (Member RequestConfiguration) := [
  ⟨"maxAdContentRating", false, _, .optional ContentRating.codec, maxAdContentRating⟩,
  ⟨"tagForChildDirectedTreatment", false, _, .optional .boolean, tagForChildDirectedTreatment⟩,
  ⟨"tagForUnderAgeOfConsent", false, _, .optional .boolean, tagForUnderAgeOfConsent⟩,
  ⟨"testDeviceIdentifiers", false, _, .list .string, testDeviceIdentifiers⟩]

theorem declares : record.Declares members where
  fills := .cons of_codec_fills <| .cons of_codec_fills <| .cons of_codec_fills <|
    .cons of_codec_fills .nil
  distinct := by decide

theorem composes : record.Composes members := by
  intro m x
  apply Iff.trans <| Spells.take_fields <|
    .field rfl fun _ => .field rfl fun _ => .field rfl fun _ => .field rfl fun _ => .done _
  simp only [members, List.forall_mem_cons]
  constructor
  · rintro ⟨_, rating, _, child, _, age, _, devices, rfl⟩
    exact ⟨rating, child, age, devices, nofun⟩
  · rintro ⟨rating, child, age, devices, _⟩
    exact ⟨_, rating, _, child, _, age, _, devices, rfl⟩

theorem staged : Staged record.decodeFields blank [members] := declares.staged composes

end RequestConfiguration

namespace ConsentRequestOptions

def members : List (Member ConsentRequestOptions) := [
  ⟨"debugGeography", false, _, DebugGeography.codec, debugGeography⟩,
  ⟨"tagForUnderAgeOfConsent", false, _, .boolean, tagForUnderAgeOfConsent⟩,
  ⟨"testIdentifiers", false, _, .list .string, testIdentifiers⟩]

theorem declares : record.Declares members where
  fills := .cons of_codec_fills <| .cons of_codec_fills <| .cons of_codec_fills .nil
  distinct := by decide

theorem composes : record.Composes members := by
  intro m x
  apply Iff.trans <| Spells.take_fields <|
    .field rfl fun _ => .field rfl fun _ => .field rfl fun _ => .done _
  simp only [members, List.forall_mem_cons]
  constructor
  · rintro ⟨_, geography, _, age, _, devices, rfl⟩
    exact ⟨geography, age, devices, nofun⟩
  · rintro ⟨geography, age, devices, _⟩
    exact ⟨_, geography, _, age, _, devices, rfl⟩

theorem staged : Staged record.decodeFields blank [members] := declares.staged composes

end ConsentRequestOptions

namespace ConsentInfo

def members : List (Member ConsentInfo) := [
  ⟨"status", true, _, ConsentStatus.codec, status⟩,
  ⟨"canRequestAds", true, _, .boolean, canRequestAds⟩,
  ⟨"privacyOptionsRequirementStatus", true, _, PrivacyOptionsRequirement.codec,
    privacyOptionsRequirementStatus⟩,
  ⟨"isConsentFormAvailable", true, _, .boolean, isConsentFormAvailable⟩]

theorem declares : record.Declares members where
  fills := .cons of_codec_fills <| .cons of_codec_fills <| .cons of_codec_fills <|
    .cons of_codec_fills .nil
  distinct := by decide

theorem composes : record.Composes members := by
  intro m x
  apply Iff.trans <| Spells.take_fields <|
    .field rfl fun _ => .field rfl fun _ => .field rfl fun _ => .field rfl fun _ => .done _
  simp only [members, List.forall_mem_cons]
  constructor
  · rintro ⟨_, ads, _, form, _, privacy, _, status, rfl⟩
    exact ⟨status, ads, privacy, form, nofun⟩
  · rintro ⟨status, ads, privacy, form, _⟩
    exact ⟨_, ads, _, form, _, privacy, _, status, rfl⟩

theorem staged : Staged record.decodeFields blank [members] := declares.staged composes

end ConsentInfo

namespace NativeAd

def members : List (Member NativeAd) := [
  ⟨"responseId", true, _, .string, responseId⟩,
  ⟨"headline", true, _, .string, headline⟩,
  ⟨"body", false, _, .optional .string, body⟩,
  ⟨"advertiser", false, _, .optional .string, advertiser⟩,
  ⟨"callToAction", false, _, .optional .string, callToAction⟩,
  ⟨"starRating", false, _, .optional .number, starRating⟩,
  ⟨"price", false, _, .optional .string, price⟩,
  ⟨"store", false, _, .optional .string, store⟩]

theorem declares : record.Declares members where
  fills := .cons of_codec_fills <| .cons of_codec_fills <| .cons of_codec_fills <|
    .cons of_codec_fills <| .cons of_codec_fills <| .cons of_codec_fills <|
    .cons of_codec_fills <| .cons of_codec_fills .nil
  distinct := by decide

theorem composes : record.Composes members := by
  intro m x
  apply Iff.trans <| Spells.take_fields <|
    .field rfl fun _ => .field rfl fun _ => .field rfl fun _ => .field rfl fun _ =>
      .field rfl fun _ => .field rfl fun _ => .field rfl fun _ => .field rfl fun _ => .done _
  simp only [members, List.forall_mem_cons]
  constructor
  · rintro ⟨_, advertiser, _, body, _, action, _, headline, _, price, _, id, _, rating, _, store,
      rfl⟩
    exact ⟨id, headline, body, advertiser, action, rating, price, store, nofun⟩
  · rintro ⟨id, headline, body, advertiser, action, rating, price, store, _⟩
    exact ⟨_, advertiser, _, body, _, action, _, headline, _, price, _, id, _, rating, _, store,
      rfl⟩

theorem staged : Staged record.decodeFields blank [members] := declares.staged composes

end NativeAd

namespace NativeAdRequestOptions

def ownMembers : List (Member NativeAdRequestOptions) := [
  ⟨"adChoicesPlacement", false, _, .optional .int32, adChoicesPlacement⟩,
  ⟨"aspectRatio", false, _, .optional .int32, aspectRatio⟩,
  ⟨"startVideoMuted", false, _, .optional .boolean, startVideoMuted⟩]

def requestMembers : List (Member NativeAdRequestOptions) :=
  (RequestOptions.membersWith (.exactly 2)).map (Member.within · request)

theorem own_declares : ownRecord.Declares ownMembers where
  fills := .cons of_codec_fills <| .cons of_codec_fills <| .cons of_codec_fills .nil
  distinct := by decide

theorem own_decode_ok_iff (m : KeyMap Json) (x : NativeAdRequestOptions) :
    ownRecord.decodeFields m = .ok x ↔
      x.request = .blank ∧ ∀ p ∈ ownMembers, p.Reads m.view blank x ∧ ¬ p.Lacks m.view := by
  have taken : Record.takeFields m ownRecord.ascending ownRecord.blank = .ok x ↔
      x.request = .blank ∧ ∀ p ∈ ownMembers, p.Reads m.view blank x := by
    apply Iff.trans <| Spells.take_fields <|
      .field rfl fun _ => .field rfl fun _ => .field rfl fun _ => .done _
    simp only [ownMembers, List.forall_mem_cons]
    constructor
    · rintro ⟨_, placement, _, ratio, _, muted, rfl⟩
      exact ⟨rfl, placement, ratio, muted, nofun⟩
    · obtain ⟨request, _, _, _⟩ := x
      rintro ⟨rfl, placement, ratio, muted, _⟩
      exact ⟨_, placement, _, ratio, _, muted, rfl⟩
  rw [own_declares.decode_fields_iff, taken, and_assoc]
  exact and_congr_right fun _ => forall₂_and.symm

theorem own_reads (view : String → Option Json) (x : NativeAdRequestOptions)
    (other : RequestOptions) : ∀ p ∈ ownMembers,
      (p.Reads view blank { x with request := other } ↔ p.Reads view blank x) := by
  simp only [ownMembers, List.forall_mem_cons]
  exact ⟨.rfl, .rfl, .rfl, nofun⟩

theorem decode_ok_iff (m : KeyMap Json) (x : NativeAdRequestOptions) : decode m = .ok x ↔
    (∀ p ∈ ownMembers, p.Reads m.view blank x ∧ ¬ p.Lacks m.view) ∧
      requestRecord.decodeFields m = .ok x.request := by
  constructor
  · intro decoded
    rw [decode_beside] at decoded
    obtain ⟨own, ofOwn, decoded⟩ := bind_ok decoded
    obtain ⟨common, ofRequest, decoded⟩ := bind_ok decoded
    cases decoded
    refine ⟨fun p member => ?_, ofRequest⟩
    rw [own_reads m.view own common p member]
    exact ((own_decode_ok_iff m own).1 ofOwn).2 p member
  · rintro ⟨own, ofRequest⟩
    have ofOwn : ownRecord.decodeFields m = .ok { x with request := .blank } := by
      apply (own_decode_ok_iff m _).2 ⟨rfl, fun p member => ?_⟩
      rw [own_reads m.view x .blank p member]
      exact own p member
    simp only [decode_beside, ofOwn, ofRequest, bind, Except.bind]

theorem decode_error_iff (m : KeyMap Json) (e : DecodeError) : decode m = .error e ↔
    ownRecord.decodeFields m = .error e ∨
      (∃ own, ownRecord.decodeFields m = .ok own) ∧ requestRecord.decodeFields m = .error e := by
  rw [decode_beside]
  cases ownRecord.decodeFields m with
  | error first => simp [bind, Except.bind]
  | ok own => cases requestRecord.decodeFields m <;> simp [bind, Except.bind]

theorem staged : Staged decode blank [ownMembers, requestMembers] where
  ok_iff m x := by
    rw [decode_ok_iff, requestRecord, (RequestOptions.staged _).ok_iff, List.flatten_singleton,
      List.flatten_cons, List.flatten_singleton, List.forall_mem_append, requestMembers,
      List.forall_mem_map]
    rfl
  error_iff m e := by
    rw [decode_error_iff, own_declares.decode_error_iff, own_declares.decodes_iff, requestRecord,
      (RequestOptions.declares _).decode_error_iff, ← Fault.within_iff request]
    constructor
    · rintro (own | ⟨sound, common⟩)
      · exact .here own
      · exact .later sound (.here common)
    · intro fault
      cases fault with
      | here own => exact .inl own
      | later sound next => exact .inr ⟨sound, FirstFault.only.1 next⟩

end NativeAdRequestOptions

end HostBridge.Ads
