set_option autoImplicit false

namespace HostBridge.Ads

inductive Format where
  | appOpen
  | interstitial
  | rewarded
  | rewardedInterstitial
deriving DecidableEq, Inhabited, Repr

namespace Format

def all : List Format := [appOpen, interstitial, rewarded, rewardedInterstitial]

def moduleName : Format → String
  | appOpen => "RNGoogleMobileAdsAppOpenModule"
  | interstitial => "RNGoogleMobileAdsInterstitialModule"
  | rewarded => "RNGoogleMobileAdsRewardedModule"
  | rewardedInterstitial => "RNGoogleMobileAdsRewardedInterstitialModule"

def stem : Format → String
  | appOpen => "appOpen"
  | interstitial => "interstitial"
  | rewarded => "rewarded"
  | rewardedInterstitial => "rewardedInterstitial"

def ofStem? (stem : String) : Option Format := all.find? (·.stem == stem)

def channel : Format → String
  | appOpen => "google_mobile_ads_app_open_event"
  | interstitial => "google_mobile_ads_interstitial_event"
  | rewarded => "google_mobile_ads_rewarded_event"
  | rewardedInterstitial => "google_mobile_ads_rewarded_interstitial_event"

def isRewarded : Format → Bool
  | rewarded => true
  | rewardedInterstitial => true
  | _ => false

end Format

end HostBridge.Ads
