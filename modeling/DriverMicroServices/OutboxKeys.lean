import DriverMicroServices.Outbox
import Mathlib

/-! The idempotency keys of the outbox, read back: an event type has no colon, so a
key names its type, and what follows the first colon names the order, the delivery
or the millisecond that the key was made of. -/
namespace DriverMicroServices

/-- The delivery in a key, with what is added to it. -/
def deliveryText (payload : OutboxPayload) : Option String :=
  (truthy payload.deliveryId).map fun deliveryId =>
    match truthy payload.driverId, truthy payload.proofType with
    | some driverId, _ => deliveryId ++ ":driver:" ++ driverId
    | none, some proofType => deliveryId ++ ":proof:" ++ proofType
    | none, none => deliveryId

/-- What a key is made of, besides the type. -/
inductive KeySource where
  | order (sellerOrderId : String)
  | delivery (text : String)
  | timestamp (now : Time)
  deriving DecidableEq

def keySource (payload : OutboxPayload) (now : Time) : KeySource :=
  match truthy payload.sellerOrderId, deliveryText payload with
  | some sellerOrderId, _ => .order sellerOrderId
  | none, some text => .delivery text
  | none, none => .timestamp now

/-- An order in the payload hides everything else. -/
theorem keySource_order {payload : OutboxPayload} :
    keySource payload now = .order sellerOrderId ↔
      truthy payload.sellerOrderId = some sellerOrderId := by
  unfold keySource
  split <;> simp_all

def KeySource.text : KeySource → String
  | .order sellerOrderId => "order:" ++ sellerOrderId
  | .delivery text => "delivery:" ++ text
  | .timestamp now => "ts:" ++ toString now

theorem generateIdempotencyKey_eq (eventType : String) (payload : OutboxPayload) (now : Time) :
    generateIdempotencyKey eventType payload now =
      eventType ++ (":" ++ (keySource payload now).text) := by
  unfold generateIdempotencyKey keySource deliveryText
  refine String.toList_inj.mp ?_
  cases truthy payload.sellerOrderId <;> cases truthy payload.deliveryId <;>
    cases truthy payload.driverId <;> cases truthy payload.proofType <;>
    simp [KeySource.text, toString, String.toList_append]

theorem text_injective (source source' : KeySource) (same : source.text = source'.text) :
    source = source' := by
  have chars := congrArg String.toList same
  cases source <;> cases source' <;>
    simp [KeySource.text, String.toList_append, toString, String.toList_inj] at chars ⊢
  all_goals exact chars

/-- A separator that neither head contains splits a list in one way only. -/
theorem split_unique {first second rest rest' : List Char} {separator : Char}
    (absent : separator ∉ first) (absent' : separator ∉ second)
    (same : first ++ separator :: rest = second ++ separator :: rest') :
    first = second ∧ rest = rest' := by
  induction first generalizing second with
  | nil =>
    cases second with
    | nil => exact ⟨rfl, (List.cons.inj same).2⟩
    | cons c second => exact absurd (List.cons.inj same).1 fun here => absent' (by simp [here])
  | cons c first ih =>
    cases second with
    | nil => exact absurd (List.cons.inj same).1.symm fun here => absent (by simp [here])
    | cons c' second =>
      obtain ⟨rfl, following⟩ := List.cons.inj same
      have heads : first = second ∧ rest = rest' :=
        ih (fun member => absent (List.mem_cons_of_mem _ member))
          (fun member => absent' (List.mem_cons_of_mem _ member)) following
      exact ⟨by rw [heads.1], heads.2⟩

theorem valid_type_colon {eventType : String} (valid : isValidVersionedEventType eventType = true) :
    ':' ∉ eventType.toList := by
  intro member
  unfold isValidVersionedEventType at valid
  split at valid
  · rename_i version rest shape
    simp only [Bool.and_eq_true, List.all_eq_true] at valid
    have reversed : ':' ∈ version :: 'V' :: '_' :: rest := by
      rw [← shape]
      exact List.mem_reverse.mpr member
    have digit : version ≠ ':' := by
      rintro rfl
      simp at valid
    have inRest : ':' ∈ rest := by
      simpa [digit.symm] using reversed
    have upper := valid.2 ':' inRest
    simp at upper
  · cases valid

/-- Two publications have one key where they agree on the type and on what the key
is made of, and nowhere else. -/
theorem key_injective {eventType eventType' : String} {payload payload' : OutboxPayload}
    {now now' : Time} (valid : isValidVersionedEventType eventType = true)
    (valid' : isValidVersionedEventType eventType' = true) :
    generateIdempotencyKey eventType payload now = generateIdempotencyKey eventType' payload' now' ↔
      eventType = eventType' ∧ keySource payload now = keySource payload' now' := by
  simp only [generateIdempotencyKey_eq]
  constructor
  · intro same
    have chars := congrArg String.toList same
    simp only [String.toList_append, String.reduceToList, List.singleton_append] at chars
    obtain ⟨types, texts⟩ := split_unique (valid_type_colon valid) (valid_type_colon valid') chars
    exact ⟨String.toList_inj.mp types, text_injective _ _ (String.toList_inj.mp texts)⟩
  · rintro ⟨rfl, same⟩
    rw [same]

end DriverMicroServices
