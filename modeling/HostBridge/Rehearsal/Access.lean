import HostBridge.Ads.Options
import HostBridge.Arguments

set_option autoImplicit false

namespace HostBridge.Rehearsal

abbrev Access := Arguments → Nat → Settlement

namespace Access

def number : Access := fun args i => (args.number i).map .number

def int : Access := fun args i => (args.int i).map .ofInt

def string : Access := fun args i => (args.string i).map .string

def boolean : Access := fun args i => (args.boolean i).map .bool

def object : Access := fun args i => (args.object i).map .object

def optional (read : Access) : Access := fun args i =>
  (args.optional read i).map (·.getD .undefined)

def absence : Access := fun args i => .ok (.bool (args.isAbsent i))

def kind : Access := fun args i => .ok (.ofOption (args[i]?.map fun a => .string a.kind))

def record (T : Type) [Decodable T] : Access := fun args i =>
  (args.decode T i).map Decodable.toValue

def named : List (String × Access) :=
  [("number", number), ("int", int), ("string", string), ("owned", string), ("boolean", boolean),
    ("object", object), ("number?", optional number), ("int?", optional int),
    ("string?", optional string), ("boolean?", optional boolean), ("object?", optional object),
    ("absent", absence), ("kind", kind),
    ("RequestOptions", record Ads.RequestOptions),
    ("ServerSideVerificationOptions", record Ads.ServerSideVerificationOptions),
    ("ShowOptions", record Ads.ShowOptions),
    ("RequestConfiguration", record Ads.RequestConfiguration),
    ("ConsentRequestOptions", record Ads.ConsentRequestOptions),
    ("NativeAdRequestOptions", record Ads.NativeAdRequestOptions),
    ("ConsentInfo", record Ads.ConsentInfo), ("NativeAd", record Ads.NativeAd)]

end Access

end HostBridge.Rehearsal
