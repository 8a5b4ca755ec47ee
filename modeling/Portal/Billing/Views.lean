import Portal.Web.View
import Portal.Web.Reverse
import Portal.Digest.Sha256
import Portal.Json.Read
import Portal.Forms.Input
/-! Billing through the payment provider. With no API key configured every call to the
provider fails before reaching it, so checkout and the subscription page end in that
failure once they get that far. The provider's webhook is verified by the signature
header `t=<timestamp>,v1=<signature>`: the signature is the HMAC-SHA256, under the
endpoint secret, of `<timestamp>.<body>`, and a timestamp more than 300 seconds before
the present is refused. A verified `customer.subscription.updated` event copies the
subscription's status to its customer. -/
namespace Portal
namespace Billing
open Web

def tolerance : Int := 300

def noApiKey : Fault :=
  ⟨"AuthenticationError", "No API key provided. (HINT: set your API key using \"stripe.api_key = <API-KEY>\"). You can generate API keys from the Stripe web interface.  See https://stripe.com/api for details, or email support@stripe.com if you have any questions."⟩

def customerOf (user : Option Nat) : App (Option Obj) := do
  return (← App.all .stripeCustomer).find? fun c => user.isSome && (c.get "user").asNat? == user

def retrieveSubscription (id : Value) : App Unit :=
  match id with
  | .text _ => App.fail noApiKey
  | v => App.raise "InvalidRequestError"
      ("Could not determine which URL to request: Subscription instance has invalid ID: " ++
        v.literal ++ ", <class '" ++ v.typeName ++ "'>. ID should be of type `str` (or `unicode`)")

def billingPage (r : Request) : App Response := do
  match ← customerOf r.userId? with
  | some c =>
    retrieveSubscription (c.get "stripe_subscription_id")
    App.render "subscriptions/subscription.html" [("STRIPE_PUBLIC_KEY", .str (← get).host.stripePublicKey)]
  | none => App.render "subscriptions/subscription.html" [("STRIPE_PUBLIC_KEY", .str (← get).host.stripePublicKey)]

def checkoutPage (r : Request) : App Response := do
  if r.method != "POST" then
    return .redirect (← App.ofExcept (reverse .subscriptionPage))
  match ← customerOf r.userId? with
  | some _ => App.fail noApiKey
  | none =>
    App.readForm
    match r.field? "stripeToken" with
    | none => App.raise "MultiValueDictKeyError" "'stripeToken'"
    | some _ => App.fail noApiKey

def pieces (s : String) (c : Char) : List String := (s.toList.splitOn c).map String.ofList

def parseSignature (header : String) : Option (Int × List String) := do
  let items := (pieces header ',').map fun i =>
    match pieces i '=' with
    | a :: b :: c :: rest => [a, b, "=".intercalate (c :: rest)]
    | parts => parts
  let stamps := items.filter (·.head? == some "t")
  let t ← match stamps with
    | (_ :: v :: _) :: _ => Forms.intOf? v
    | _ => none
  let sigItems := items.filter (·.head? == some "v1")
  let sigs ← sigItems.mapM fun i => match i with
    | _ :: v :: _ => some v
    | _ => none
  return (t, sigs)

def verified (body : String) (header : Option String) (secret : String) (now : Int) : Bool :=
  match header.bind parseSignature with
  | none => false
  | some (t, sigs) =>
    let expected := Digest.hex (Digest.hmacSha256 (Digest.utf8 secret) (Digest.utf8 (toString t ++ "." ++ body)))
    !sigs.isEmpty && sigs.contains expected && !(t < now - tolerance)

def member (j : Json) (k : String) : App Json :=
  match j with
  | .obj kvs => match kvs.find? (·.1 == k) with
    | some (_, v) => pure v
    | none => App.fail (Fault.keyError k)
  | .str _ => App.raise "TypeError" "string indices must be integers, not 'str'"
  | .arr _ => App.raise "TypeError" "list indices must be integers or slices, not str"
  | other => App.raise "TypeError" ("'" ++ other.kindName ++ "' object is not subscriptable")

def attrOf (j : Json) (k : String) : App Json :=
  match j with
  | .obj kvs => match kvs.find? (·.1 == k) with
    | some (_, v) => pure v
    | none => App.raise "AttributeError" k
  | other => App.raise "AttributeError" ("'" ++ other.kindName ++ "' object has no attribute '" ++ k ++ "'")

def webhookPage (r : Request) : App Response := do
  if r.method != "POST" then return .notAllowed ["POST"]
  let secret ← match (← get).settings.webhookSecret with
    | none => pure (← get).host.stripeWebhookSecret
    | some (.str s) => pure s
    | some .null => App.raise "AttributeError" "'NoneType' object has no attribute 'encode'"
    | some other => App.raise "AttributeError" ("'" ++ other.kindName ++ "' object has no attribute 'encode'")
  if !verified r.body (r.header? "HTTP_STRIPE_SIGNATURE") secret (← get).host.seconds then return { status := 400 }
  let event ← match Json.parse r.body with
    | .ok j => pure j
    | .error _ => return { status := 400 }
  match event with
  | .obj _ => pure ()
  | other => App.raise "AttributeError" ("'" ++ other.kindName ++ "' object has no attribute 'get'")
  let kind ← member event "type"
  if kind == .str "customer.subscription.updated" then
    let sub ← member (← member event "data") "object"
    let id ← attrOf sub "id"
    let matching := (← App.all .stripeCustomer).filter fun c =>
      if id.isNull then (c.get "stripe_subscription_id").isNull
      else c.get "stripe_subscription_id" == .text id.toText
    let c ← match matching with
      | [c] => pure c
      | [] => App.fail (Fault.doesNotExist "StripeCustomer")
      | cs => App.raise "MultipleObjectsReturned" (App.manyText .stripeCustomer cs.length)
    let status ← attrOf sub "status"
    discard <| App.save (c.set "subscription_status" (if status.isNull then .null else .text status.toText))
  return { status := 200 }

def page (r : Request) (p : BillingPage) : App Response :=
  match p with
  | .index => guarded [requireLogin r] (billingPage r)
  | .checkout => guarded [requireLogin r] (checkoutPage r)
  | .webhook => webhookPage r

end Billing
end Portal
