import DriverMicroServices.Events
import Mathlib.Algebra.Order.Field.Rat
import Mathlib.Data.List.Basic
import Mathlib.Tactic.NormNum

/-! What the signature of a webhook says of the request. The signing payload is four
texts joined with `:`, of which only the timestamp cannot have a `:` of its own, and the
locations are not part of it. -/
namespace DriverMicroServices
namespace WebhookSignature
open Transactions Program

section Joined

variable {α : Type} {sep : α} {first first' rest rest' : List α}

/-- The last part can be told where it is free of the separator. -/
theorem split_last (joined : first ++ sep :: rest = first' ++ sep :: rest') (free : sep ∉ rest)
    (free' : sep ∉ rest') : first = first' ∧ rest = rest' := by
  rcases List.append_eq_append_iff.mp joined with ⟨more, longer, tail⟩ | ⟨more, longer, tail⟩
  · cases more with
    | nil => exact ⟨by simpa using longer.symm, (List.cons.inj tail).2⟩
    | cons next more =>
      obtain ⟨-, rfl⟩ := List.cons.inj tail
      exact absurd (by simp) free
  · cases more with
    | nil => exact ⟨by simpa using longer, (List.cons.inj tail).2.symm⟩
    | cons next more =>
      obtain ⟨-, rfl⟩ := List.cons.inj tail
      exact absurd (by simp) free'

/-- The first part can be told from the number of separators in it. -/
theorem split_first [DecidableEq α] (joined : first ++ sep :: rest = first' ++ sep :: rest')
    (counted : first.count sep = first'.count sep) : first = first' ∧ rest = rest' := by
  rcases List.append_eq_append_iff.mp joined with ⟨more, longer, tail⟩ | ⟨more, longer, tail⟩
  · cases more with
    | nil => exact ⟨by simpa using longer.symm, (List.cons.inj tail).2⟩
    | cons next more =>
      obtain ⟨rfl, -⟩ := List.cons.inj tail
      rw [longer, List.count_append, List.count_cons_self] at counted
      omega
  · cases more with
    | nil => exact ⟨by simpa using longer, (List.cons.inj tail).2.symm⟩
    | cons next more =>
      obtain ⟨rfl, -⟩ := List.cons.inj tail
      rw [longer, List.count_append, List.count_cons_self] at counted
      omega

end Joined

/-- The text that is signed. -/
def signingPayload (payload : SellerOrderReadyPayload) (timestampHeader : String) : String :=
  ":".intercalate [payload.eventId, payload.sellerOrderId, payload.channelId, timestampHeader]

theorem signingPayload_toList (payload : SellerOrderReadyPayload) (timestampHeader : String) :
    (signingPayload payload timestampHeader).toList =
      (payload.eventId.toList ++ ':' :: (payload.sellerOrderId.toList ++
        ':' :: payload.channelId.toList)) ++ ':' :: timestampHeader.toList := by
  simp [signingPayload]

/-- The request passes `validateSignature`. -/
def Passes (config : WebhookConfig) (payload : SellerOrderReadyPayload) (headers : WebhookHeaders)
    (now : Time) : Prop := validateSignature config payload headers now = pure ()

/-- What is known of the functions of the platform. -/
structure Platform (config : WebhookConfig) : Prop where
  /-- No two texts have the same HMAC. -/
  collisionFree : ∀ secret, Function.Injective (config.hmac secret)
  /-- `Number` of a text with a `:` is not a number. -/
  plain : ∀ text, ':' ∈ text.toList → config.number text = none

section Signatures

variable {config : WebhookConfig} {payload payload' : SellerOrderReadyPayload}
  {headers headers' : WebhookHeaders} {now now' : Time}

/-- A signed request carries the HMAC of its signing payload, and the time as a number. -/
theorem Passes.signed (passes : Passes config payload headers now)
    (enforced : config.enforceWebhookSignature = true) :
    ∃ timestampHeader signatureHeader secret, truthy headers.timestamp = some timestampHeader ∧
      truthy headers.signature = some signatureHeader ∧
      truthy config.webhookSignatureSecret = some secret ∧
      config.number timestampHeader ≠ none ∧
      config.hmac secret (signingPayload payload timestampHeader) = signatureHeader := by
  unfold Passes validateSignature at passes
  split at passes
  · rename_i timestampHeader signatureHeader secret timestamp signature known
    refine ⟨timestampHeader, signatureHeader, secret, timestamp, signature, known, ?_⟩
    cases number : config.number timestampHeader with
    | none =>
      rw [number] at passes
      cases passes
    | some requestTimestamp =>
      refine ⟨by simp, ?_⟩
      rw [number] at passes
      dsimp only at passes
      by_contra other
      have invalid (condition : Prop) [Decidable condition] (exception exception' : Exception) :
          (throwIf condition exception >>= fun _ => throwIf
            (config.hmac secret (signingPayload payload timestampHeader) ≠ signatureHeader)
            exception') ≠ pure () := by
        unfold throwIf
        rw [if_pos other]
        split <;> exact nofun
      exact invalid _ _ _ passes
  · rw [throwIf, if_pos enforced] at passes
    cases passes

/-- A request in time with the HMAC of its signing payload passes. -/
theorem passes_of_signed {timestampHeader signatureHeader secret : String} {requestTimestamp : Rat}
    (timestamp : truthy headers.timestamp = some timestampHeader)
    (signature : truthy headers.signature = some signatureHeader)
    (known : truthy config.webhookSignatureSecret = some secret)
    (number : config.number timestampHeader = some requestTimestamp)
    (timely : ((now : Rat) - requestTimestamp).abs ≤ webhookMaxClockSkewMs)
    (hmac : config.hmac secret (signingPayload payload timestampHeader) = signatureHeader) :
    Passes config payload headers now := by
  unfold Passes validateSignature
  rw [timestamp, signature, known]
  dsimp only
  rw [number]
  dsimp only
  rw [throwIf, if_neg (Rat.not_lt.mpr timely)]
  change throwIf (config.hmac secret (signingPayload payload timestampHeader) ≠ signatureHeader) _ = _
  rw [throwIf, if_neg (not_not.mpr hmac)]

/-- The number of separators in an id. -/
def colons (id : String) : Nat := id.toList.count ':'

/-- The signature binds the time, and the ids up to where one ends and the next
begins. -/
theorem signature_binds (platform : Platform config)
    (enforced : config.enforceWebhookSignature = true) (first : Passes config payload headers now)
    (second : Passes config payload' headers' now') (same : headers.signature = headers'.signature) :
    headers.timestamp = headers'.timestamp ∧
      (colons payload.eventId = colons payload'.eventId →
        colons payload.sellerOrderId = colons payload'.sellerOrderId →
        payload.eventId = payload'.eventId ∧ payload.sellerOrderId = payload'.sellerOrderId ∧
          payload.channelId = payload'.channelId) := by
  obtain ⟨timestamp, signature, secret, stamped, signed, known, number, hmac⟩ := first.signed enforced
  obtain ⟨timestamp', signature', secret', stamped', signed', known', number', hmac'⟩ :=
    second.signed enforced
  rw [known] at known'
  cases known'
  rw [same, signed'] at signed
  cases signed
  have texts := congrArg String.toList (platform.collisionFree secret (hmac.trans hmac'.symm))
  rw [signingPayload_toList, signingPayload_toList] at texts
  obtain ⟨ids, times⟩ := split_last texts (fun colon => number (platform.plain _ colon))
    fun colon => number' (platform.plain _ colon)
  refine ⟨?_, fun events orders => ?_⟩
  · rw [truthy_some stamped, truthy_some stamped', String.toList_inj.mp times]
  · obtain ⟨event, others⟩ := split_first ids events
    obtain ⟨order, channel⟩ := split_first others orders
    exact ⟨String.toList_inj.mp event, String.toList_inj.mp order, String.toList_inj.mp channel⟩

end Signatures

/-! ## Sample requests -/

def digits (text : String) : Nat :=
  text.toList.foldl (fun total digit => 10 * total + (digit.toNat - 48)) 0

/-- A decimal numeral. -/
def readDigits (text : String) : Option Rat :=
  if text ≠ "" ∧ text.toList.all Char.isDigit then some (digits text) else none

def signing : WebhookConfig where
  expectedSecret := some "secret"
  signatureSecret := some "k"
  enforceWebhookSignature := true
  hmac := fun secret text => secret ++ text
  number := readDigits

theorem signing_platform : Platform signing where
  collisionFree := fun secret text text' same => (String.append_right_inj secret).mp same
  plain := by
    intro text colon
    refine if_neg fun digits => ?_
    have digit := List.all_eq_true.mp digits.2 ':' colon
    revert digit
    decide

/-- The shop's request. -/
def orderReady : SellerOrderReadyPayload where
  eventId := "e"
  sellerOrderId := "S:1"
  channelId := "c"
  pickupLat := "12.9"
  pickupLon := "77.6"
  dropLat := "13.0"
  dropLon := "77.7"

/-- The same order with another place to go. -/
def elsewhere : SellerOrderReadyPayload := { orderReady with dropLat := "28.6", dropLon := "77.2" }

/-- Another event and another order. -/
def shifted : SellerOrderReadyPayload := { orderReady with eventId := "e:S", sellerOrderId := "1" }

def signedHeaders : WebhookHeaders where
  secret := some "secret"
  timestamp := some "1000"
  signature := some "ke:S:1:c:1000"

theorem passes_signing {payload : SellerOrderReadyPayload}
    (signed : signingPayload payload "1000" = "e:S:1:c:1000") :
    Passes signing payload signedHeaders 1000 := by
  have number : signing.number "1000" = some 1000 := by
    change readDigits "1000" = some 1000
    rw [readDigits, if_pos (by decide), show digits "1000" = 1000 by decide]
    norm_num
  refine passes_of_signed rfl rfl rfl number ?_ ?_
  · rw [show ((1000 : Time) : Rat) - 1000 = 0 by norm_num]
    norm_num [webhookMaxClockSkewMs, Rat.abs]
  · rw [signed]
    rfl

/-- A captured signature passes with another place, and with other ids. -/
theorem signature_replayed :
    Platform signing ∧ signing.enforceWebhookSignature = true ∧ Passes signing orderReady signedHeaders 1000 ∧
      (Passes signing elsewhere signedHeaders 1000 ∧ elsewhere.dropLat ≠ orderReady.dropLat) ∧
      Passes signing shifted signedHeaders 1000 ∧ shifted.eventId ≠ orderReady.eventId ∧
        shifted.sellerOrderId ≠ orderReady.sellerOrderId :=
  ⟨signing_platform, rfl, passes_signing rfl, ⟨passes_signing rfl, by decide⟩, passes_signing rfl,
    by decide, by decide⟩

theorem signature_binds_order :
    signedHeaders.timestamp = signedHeaders.timestamp ∧
      (colons orderReady.eventId = colons elsewhere.eventId →
        colons orderReady.sellerOrderId = colons elsewhere.sellerOrderId →
        orderReady.eventId = elsewhere.eventId ∧ orderReady.sellerOrderId = elsewhere.sellerOrderId ∧
          orderReady.channelId = elsewhere.channelId) :=
  signature_binds signing_platform rfl (passes_signing rfl) (passes_signing rfl) rfl

end WebhookSignature

end DriverMicroServices
