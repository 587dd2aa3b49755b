import DriverMicroServices.Texts.Leaves

/-! The compression of archived payloads: `null` and what is empty is left out, and names are
shortened by a table. A name that is in use already is overwritten, and an object that becomes
empty has no compressed value at all. -/
namespace DriverMicroServices.ArchiveCompression
open Texts Texts.Json Tables

variable {ν : Type}

/-! ## The passes -/

/-- `object[key] = value`, one after the other, on an object that is new. Setting `__proto__` gives
it no property. -/
def assignAll (entries : List (String × Json ν)) : List (String × Json ν) :=
  Keyed.putAll (entries.filter fun entry => entry.1 ≠ "__proto__")

mutual

/-- `cleanPayload`; nothing is `undefined`. -/
def cleanPayload : Json ν → Option (Json ν)
  | .null => none
  | .arr items => some (.arr (cleanItems items))
  | .obj fields =>
    match assignAll (cleanEntries fields) with
    | [] => none
    | cleaned => some (.obj cleaned)
  | .bool value => some (.bool value)
  | .num value => some (.num value)
  | .str value => some (.str value)

def cleanItems : List (Json ν) → List (Json ν)
  | [] => []
  | item :: rest =>
    match cleanPayload item with
    | some cleaned => cleaned :: cleanItems rest
    | none => cleanItems rest

def cleanEntries : List (String × Json ν) → List (String × Json ν)
  | [] => []
  | (key, value) :: rest =>
    match cleanPayload value with
    | some cleanedValue => (key, cleanedValue) :: cleanEntries rest
    | none => cleanEntries rest

end

mutual

/-- `compressLargeStrings`; a large text stays as it is for now. -/
def compressLargeStrings : Json ν → Json ν
  | .str value => if 1000 < Units.length value then .str value else .str value
  | .arr items => .arr (compressItems items)
  | .obj fields => .obj (assignAll (compressEntries fields))
  | .null => .null
  | .bool value => .bool value
  | .num value => .num value

def compressItems : List (Json ν) → List (Json ν)
  | [] => []
  | item :: rest => compressLargeStrings item :: compressItems rest

def compressEntries : List (String × Json ν) → List (String × Json ν)
  | [] => []
  | (key, value) :: rest => (key, compressLargeStrings value) :: compressEntries rest

end

def fieldMapping : List (String × String) :=
  [("created_at", "ca"), ("updated_at", "ua"), ("event_type", "et"), ("event_id", "eid"), ("user_id", "uid"),
    ("driver_id", "did"), ("delivery_id", "dlid"), ("location", "loc"), ("timestamp", "ts"), ("status", "st"),
    ("payload", "pl"), ("metadata", "md"), ("description", "desc"), ("message", "msg"), ("error", "err"),
    ("success", "suc"), ("failed", "fail"), ("completed", "comp"), ("processing", "proc"), ("pending", "pend")]

/-- What every object has under other names than its own. -/
def prototypeMethods : List String :=
  ["__defineGetter__", "__defineSetter__", "hasOwnProperty", "__lookupGetter__", "__lookupSetter__",
    "isPrototypeOf", "propertyIsEnumerable", "toString", "valueOf", "toLocaleString"]

/-- `fieldMapping[key] || key`, as the name of a property: the table is an object, which has the
members of every object too, and those are written as texts. -/
def normalizedKey (key : String) : String :=
  match Keyed.get fieldMapping key with
  | some short => short
  | none =>
    if key = "constructor" then "function Object() \x7b [native code] \x7d"
    else if key = "__proto__" then "[object Object]"
    else if key ∈ prototypeMethods then "function " ++ key ++ "() \x7b [native code] \x7d"
    else key

mutual

def normalizeFieldNames : Json ν → Json ν
  | .arr items => .arr (normalizeItems items)
  | .obj fields => .obj (assignAll (normalizeEntries fields))
  | .null => .null
  | .bool value => .bool value
  | .num value => .num value
  | .str value => .str value

def normalizeItems : List (Json ν) → List (Json ν)
  | [] => []
  | item :: rest => normalizeFieldNames item :: normalizeItems rest

def normalizeEntries : List (String × Json ν) → List (String × Json ν)
  | [] => []
  | (key, value) :: rest => (normalizedKey key, normalizeFieldNames value) :: normalizeEntries rest

end

def compressPayload (payload : Json ν) : Option (Json ν) :=
  (cleanPayload payload).map fun cleaned => normalizeFieldNames (compressLargeStrings cleaned)

/-- What `compressOldArchives` writes for an event. -/
structure ArchiveUpdate (ν : Type) where
  compressedPayload : Json ν
  isCompressed : Bool
  compressedPayloadSize : Nat

/-- One event of `compressOldArchives`, up to the `UPDATE`; the error is only logged. -/
def compressArchive (stringifiedLength : Json ν → Nat) (payload : Json ν) : Except String (ArchiveUpdate ν) :=
  match compressPayload payload with
  | some compressedPayload => .ok
    { compressedPayload, isCompressed := true, compressedPayloadSize := stringifiedLength compressedPayload }
  | none => .error "Cannot read properties of undefined (reading 'length')"

/-! ## What is lost -/

mutual

/-- The value has nothing but `null` and objects in it. -/
def vanishes : Json ν → Bool
  | .null => true
  | .obj fields => fieldsVanish fields
  | _ => false

def fieldsVanish : List (String × Json ν) → Bool
  | [] => true
  | (key, value) :: rest => (decide (key = "__proto__") || vanishes value) && fieldsVanish rest

end

/-- A field behind it takes its name. -/
def replaced (key : String) (rest : List (String × Json ν)) : Bool :=
  rest.any fun later => decide (later.1 ≠ "__proto__") && !vanishes later.2 &&
    decide (normalizedKey later.1 = normalizedKey key)

mutual

/-- Every field whose name is taken, by a field behind it or by the prototype, has no leaves. -/
def Keeps : Json ν → Prop
  | .arr items => ItemsKeep items
  | .obj fields => FieldsKeep fields
  | _ => True

def ItemsKeep : List (Json ν) → Prop
  | [] => True
  | item :: rest => Keeps item ∧ ItemsKeep rest

def FieldsKeep : List (String × Json ν) → Prop
  | [] => True
  | (key, value) :: rest => (key = "__proto__" ∨ replaced key rest = true → value.values = []) ∧
    Keeps value ∧ FieldsKeep rest

end

/-! ## The objects that the passes make -/

private theorem compressEntries_self {entries : List (String × Json ν)}
    (tidied : ∀ entry ∈ entries, compressLargeStrings entry.2 = entry.2) : compressEntries entries = entries := by
  induction entries with
  | nil => rfl
  | cons entry rest ih =>
    rw [compressEntries, tidied entry List.mem_cons_self, ih fun other member => tidied other (by simp [member])]

theorem mem_assignAll {entries : List (String × Json ν)} {entry : String × Json ν}
    (member : entry ∈ assignAll entries) : entry ∈ entries ∧ entry.1 ≠ "__proto__" := by
  have kept := Keyed.lasting_subset ((Keyed.putAll_perm _).subset member)
  simpa using kept

theorem assignAll_distinct (entries : List (String × Json ν)) : Keyed.Distinct (assignAll entries) :=
  Keyed.Distinct.putAll _

private theorem assignAll_eq_nil {entries : List (String × Json ν)} :
    assignAll entries = [] ↔ ∀ entry ∈ entries, entry.1 = "__proto__" := by
  rw [assignAll, Keyed.putAll_eq_nil, List.filter_eq_nil_iff]
  simp

/-- Where the names are distinct and none is `__proto__`, the object has the fields as they are. -/
theorem assignAll_of_tidy {entries : List (String × Json ν)} (distinct : Keyed.Distinct entries)
    (named : ∀ entry ∈ entries, entry.1 ≠ "__proto__") : assignAll entries = entries := by
  have all : entries.filter (fun entry => entry.1 ≠ "__proto__") = entries :=
    List.filter_eq_self.mpr fun entry member => by simpa using named entry member
  rw [assignAll, all]
  exact Keyed.putAll_of_distinct distinct

/-! ### Cleaning -/

theorem cleanPayload_obj (fields : List (String × Json ν)) :
    cleanPayload (.obj fields) =
      if assignAll (cleanEntries fields) = [] then none else some (.obj (assignAll (cleanEntries fields))) := by
  rw [cleanPayload]
  cases shape : assignAll (cleanEntries fields) with
  | nil => rfl
  | cons entry rest => exact (if_neg (List.cons_ne_nil entry rest)).symm

mutual

theorem cleanPayload_eq_none : (payload : Json ν) → (cleanPayload payload = none ↔ vanishes payload = true)
  | .null => by simp [cleanPayload, vanishes]
  | .bool _ | .num _ | .str _ | .arr _ => by simp [cleanPayload, vanishes]
  | .obj fields => by
    have gone := cleanEntries_eq_nil fields
    rw [cleanPayload_obj, vanishes, ← gone, ← assignAll_eq_nil]
    split
    · rename_i empty
      simp [empty]
    · rename_i some_left
      simp [some_left]

/-- Nothing is left of the fields just when they vanish. -/
theorem cleanEntries_eq_nil : (fields : List (String × Json ν)) →
    ((∀ entry ∈ cleanEntries fields, entry.1 = "__proto__") ↔ fieldsVanish fields = true)
  | [] => by simp [cleanEntries, fieldsVanish]
  | (key, value) :: rest => by
    have here := cleanPayload_eq_none value
    have later := cleanEntries_eq_nil rest
    rw [cleanEntries, fieldsVanish, Bool.and_eq_true, ← later, Bool.or_eq_true, ← here, decide_eq_true_eq]
    cases cleaned : cleanPayload value with
    | none => simp
    | some cleanedValue => simp

end

/-! The values that cleaning makes have objects with distinct names, none of them `__proto__`, and
the second pass leaves those as they are. -/

mutual

theorem cleanPayload_tidied : (payload cleaned : Json ν) → cleanPayload payload = some cleaned →
    compressLargeStrings cleaned = cleaned
  | .bool _, _, made | .num _, _, made => by
    cases made
    rfl
  | .str _, _, made => by
    cases made
    rw [compressLargeStrings, ite_self]
  | .arr items, _, made => by
    cases made
    rw [compressLargeStrings, cleanItems_tidied items]
  | .obj fields, cleaned, made => by
    rw [cleanPayload_obj] at made
    split at made
    · cases made
    · cases made
      have same : compressEntries (assignAll (cleanEntries fields)) = assignAll (cleanEntries fields) :=
        compressEntries_self fun entry member => cleanEntries_tidied fields entry (mem_assignAll member).1
      rw [compressLargeStrings, same]
      exact congrArg Json.obj (assignAll_of_tidy (assignAll_distinct _) fun entry member => (mem_assignAll member).2)

theorem cleanItems_tidied : (items : List (Json ν)) → compressItems (cleanItems items) = cleanItems items
  | [] => rfl
  | item :: rest => by
    rw [cleanItems]
    cases made : cleanPayload item with
    | none => exact cleanItems_tidied rest
    | some cleaned =>
      dsimp only
      rw [compressItems, cleanPayload_tidied item cleaned made, cleanItems_tidied rest]

theorem cleanEntries_tidied : (fields : List (String × Json ν)) → ∀ entry ∈ cleanEntries fields,
    compressLargeStrings entry.2 = entry.2
  | [], _, member => nomatch member
  | (key, value) :: rest, entry, member => by
    rw [cleanEntries] at member
    cases made : cleanPayload value with
    | none =>
      rw [made] at member
      exact cleanEntries_tidied rest entry member
    | some cleaned =>
      rw [made] at member
      rcases List.mem_cons.mp member with rfl | member
      · exact cleanPayload_tidied value cleaned made
      · exact cleanEntries_tidied rest entry member

end

/-! ### Shorter names -/

private theorem normalizeEntries_eq (entries : List (String × Json ν)) :
    normalizeEntries entries = entries.map fun entry => (normalizedKey entry.1, normalizeFieldNames entry.2) := by
  induction entries with
  | nil => rfl
  | cons entry rest ih => rw [normalizeEntries, ih, List.map_cons]

private theorem normalizeItems_eq (items : List (Json ν)) : normalizeItems items = items.map normalizeFieldNames := by
  induction items with
  | nil => rfl
  | cons item rest ih => rw [normalizeItems, ih, List.map_cons]

mutual

theorem normalizeFieldNames_unambiguous : (payload : Json ν) → (normalizeFieldNames payload).Unambiguous
  | .null | .bool _ | .num _ | .str _ => trivial
  | .arr items => by
    rw [normalizeFieldNames]
    exact elementsUnambiguous_iff.mpr (normalizeItems_unambiguous items)
  | .obj fields => by
    rw [normalizeFieldNames]
    exact ⟨assignAll_distinct _, fieldsUnambiguous_iff.mpr fun field member =>
      normalizeEntries_unambiguous fields field (mem_assignAll member).1⟩

theorem normalizeItems_unambiguous : (items : List (Json ν)) → ∀ item ∈ normalizeItems items, item.Unambiguous
  | [], _, member => nomatch member
  | first :: rest, item, member => by
    rcases List.mem_cons.mp member with rfl | member
    · exact normalizeFieldNames_unambiguous first
    · exact normalizeItems_unambiguous rest item member

theorem normalizeEntries_unambiguous : (fields : List (String × Json ν)) →
    ∀ field ∈ normalizeEntries fields, field.2.Unambiguous
  | [], _, member => nomatch member
  | (key, value) :: rest, field, member => by
    rcases List.mem_cons.mp member with rfl | member
    · exact normalizeFieldNames_unambiguous value
    · exact normalizeEntries_unambiguous rest field member

end

/-- No name becomes `__proto__`. -/
theorem normalizedKey_ne_proto (key : String) : normalizedKey key ≠ "__proto__" := by
  unfold normalizedKey
  split
  · rename_i short held
    have listed := Keyed.mem_of_get held
    have all : fieldMapping.all fun entry => entry.2 ≠ "__proto__" := by decide
    simpa using List.all_eq_true.mp all _ listed
  split
  · decide
  split
  · decide
  split
  · rename_i method
    have all : prototypeMethods.all fun name =>
        "function " ++ name ++ "() \x7b [native code] \x7d" ≠ "__proto__" := by decide
    simpa using List.all_eq_true.mp all _ method
  · assumption

/-! ## What is kept -/

/-- The leaves that are left of a value. -/
def kept (payload : Json ν) : List (Json ν) := (compressPayload payload).elim [] values

/-- The fields whose names no field behind them takes. -/
def survivors : List (String × Json ν) → List (String × Json ν)
  | [] => []
  | (key, value) :: rest =>
    if key = "__proto__" ∨ replaced key rest = true then survivors rest else (key, value) :: survivors rest

theorem compressPayload_eq (payload : Json ν) :
    compressPayload payload = (cleanPayload payload).map normalizeFieldNames := by
  unfold compressPayload
  cases cleaned : cleanPayload payload with
  | none => rfl
  | some value => rw [Option.map_some, Option.map_some, cleanPayload_tidied payload value cleaned]

private theorem kept_arr (items : List (Json ν)) : kept (.arr items) = items.flatMap kept := by
  rw [kept, compressPayload_eq, cleanPayload, Option.map_some, Option.elim_some, normalizeFieldNames, values_arr,
    normalizeItems_eq, List.flatMap_map]
  induction items with
  | nil => rfl
  | cons item rest ih =>
    rw [cleanItems, List.flatMap_cons, ← ih, kept, compressPayload_eq]
    cases cleanPayload item with
    | none => rfl
    | some cleaned => rw [List.flatMap_cons, Option.map_some, Option.elim_some]

/-- The fields that are left, under their new names. -/
def renamed (fields : List (String × Json ν)) : List (String × Json ν) :=
  normalizeEntries ((cleanEntries fields).filter fun entry => entry.1 ≠ "__proto__")

theorem renamed_cons (key : String) (value : Json ν) (rest : List (String × Json ν)) :
    renamed ((key, value) :: rest) =
      if key = "__proto__" then renamed rest
      else
        match cleanPayload value with
        | none => renamed rest
        | some cleaned => (normalizedKey key, normalizeFieldNames cleaned) :: renamed rest := by
  unfold renamed
  rw [cleanEntries]
  cases cleanPayload value with
  | none => simp
  | some cleaned =>
    by_cases proto : key = "__proto__"
    · rw [if_pos proto, List.filter_cons_of_neg (by simpa using proto)]
    · rw [if_neg proto, List.filter_cons_of_pos (by simpa using proto), normalizeEntries]

theorem mem_renamed (key : String) (fields : List (String × Json ν)) :
    normalizedKey key ∈ (renamed fields).map (·.1) ↔ replaced key fields = true := by
  induction fields with
  | nil => simp [renamed, cleanEntries, normalizeEntries, replaced]
  | cons field rest ih =>
    obtain ⟨name, value⟩ := field
    have vanish := cleanPayload_eq_none value
    rw [renamed_cons, replaced, List.any_cons, Bool.or_eq_true, ← replaced, ← ih]
    by_cases proto : name = "__proto__"
    · rw [if_pos proto]
      simp [proto]
    · rw [if_neg proto]
      cases cleaned : cleanPayload value with
      | none =>
        rw [cleaned] at vanish
        simp [vanish.mp rfl]
      | some left =>
        have stays : vanishes value = false := by
          rw [← Bool.not_eq_true, ← vanish, cleaned]
          exact Option.some_ne_none left
        simp [proto, stays, eq_comm]

/-- Of the fields that are written, the last one under each name is left. -/
theorem lasting_renamed (fields : List (String × Json ν)) :
    (Keyed.lasting (renamed fields)).flatMap (fun field => field.2.values) =
      (survivors fields).flatMap fun field => kept field.2 := by
  induction fields with
  | nil => rfl
  | cons field rest ih =>
    obtain ⟨key, value⟩ := field
    rw [renamed_cons, survivors]
    by_cases proto : key = "__proto__"
    · rw [if_pos proto, if_pos (.inl proto), ih]
    rw [if_neg proto]
    have same : kept value = ((cleanPayload value).map normalizeFieldNames).elim [] values := by
      rw [kept, compressPayload_eq]
    cases cleaned : cleanPayload value with
    | none =>
      rw [cleaned] at same
      dsimp only
      rw [ih]
      split
      · rfl
      · rw [List.flatMap_cons, same]
        rfl
    | some left =>
      rw [cleaned] at same
      dsimp only
      rw [Keyed.lasting]
      by_cases again : replaced key rest = true
      · rw [if_pos ((mem_renamed key rest).mpr again), if_pos (.inr again), ih]
      · have fresh : ¬ (key = "__proto__" ∨ replaced key rest = true) := by
          rintro (named | taken)
          · exact proto named
          · exact again taken
        rw [if_neg (mt (mem_renamed key rest).mp again), if_neg fresh, List.flatMap_cons, List.flatMap_cons, ih, same]
        rfl

private theorem cleanEntries_keys (fields : List (String × Json ν)) :
    ((cleanEntries fields).map (·.1)).Sublist (fields.map (·.1)) := by
  induction fields with
  | nil => exact List.Sublist.refl _
  | cons field rest ih =>
    rw [cleanEntries]
    cases cleanPayload field.2 with
    | none => exact ih.cons _
    | some cleaned => exact ih.cons_cons _

private theorem assignAll_cleanEntries {fields : List (String × Json ν)} (distinct : Keyed.Distinct fields) :
    assignAll (cleanEntries fields) = (cleanEntries fields).filter fun entry => entry.1 ≠ "__proto__" := by
  have cleaned : Keyed.Distinct (cleanEntries fields) := distinct.sublist (cleanEntries_keys fields)
  exact Keyed.putAll_of_distinct (cleaned.sublist (List.Sublist.map _ List.filter_sublist))

private theorem kept_obj {fields : List (String × Json ν)} (distinct : Keyed.Distinct fields) :
    (kept (.obj fields)).Perm ((survivors fields).flatMap fun field => kept field.2) := by
  rw [kept, compressPayload_eq, cleanPayload_obj, assignAll_cleanEntries distinct, ← lasting_renamed]
  split
  · rename_i gone
    rw [renamed, gone]
    exact List.Perm.refl _
  · have named : (renamed fields).filter (fun entry => entry.1 ≠ "__proto__") = renamed fields := by
      refine List.filter_eq_self.mpr fun entry member => ?_
      rw [renamed, normalizeEntries_eq] at member
      obtain ⟨field, -, rfl⟩ := List.mem_map.mp member
      simpa using normalizedKey_ne_proto field.1
    rw [Option.map_some, Option.elim_some, normalizeFieldNames, values_obj, ← renamed, assignAll, named]
    exact (Keyed.putAll_perm (renamed fields)).flatMap_right _

/-! ### How much is kept -/

mutual

/-- What is kept is part of what was there, and it is all of it just when every field keeps its name. -/
theorem kept_part : (payload : Json ν) → payload.Unambiguous → (kept payload).Subperm payload.values ∧
    (payload.values.length ≤ (kept payload).length ↔ Keeps payload)
  | .null, _ => ⟨List.Subperm.refl _, iff_of_true (Nat.le_refl _) trivial⟩
  | .bool _, _ | .num _, _ => ⟨List.Subperm.refl _, iff_of_true (Nat.le_refl _) trivial⟩
  | .str value, _ => by
    have same : kept (.str value : Json ν) = values (.str value) := by
      rw [kept, compressPayload_eq]
      rfl
    rw [same]
    exact ⟨List.Subperm.refl _, iff_of_true (Nat.le_refl _) trivial⟩
  | .arr items, unambiguous => by
    rw [kept_arr, values_arr]
    exact itemsKept_part items unambiguous
  | .obj fields, unambiguous => by
    have same := kept_obj unambiguous.1
    obtain ⟨part, all⟩ := fieldsKept_part fields unambiguous.2
    rw [values_obj]
    exact ⟨same.subperm.trans part, by rw [same.length_eq]; exact all⟩

theorem itemsKept_part : (items : List (Json ν)) → ElementsUnambiguous items →
    (items.flatMap kept).Subperm (items.flatMap values) ∧
      ((items.flatMap values).length ≤ (items.flatMap kept).length ↔ ItemsKeep items)
  | [], _ => ⟨List.Subperm.refl _, iff_of_true (Nat.le_refl _) trivial⟩
  | item :: rest, unambiguous => by
    obtain ⟨part, all⟩ := kept_part item unambiguous.1
    obtain ⟨parts, alls⟩ := itemsKept_part rest unambiguous.2
    have fewer := part.length_le
    have fewers := parts.length_le
    rw [List.flatMap_cons, List.flatMap_cons, ItemsKeep, ← all, ← alls, List.length_append, List.length_append]
    exact ⟨part.append parts, by omega⟩

theorem fieldsKept_part : (fields : List (String × Json ν)) → FieldsUnambiguous fields →
    ((survivors fields).flatMap fun field => kept field.2).Subperm (fields.flatMap fun field => field.2.values) ∧
      ((fields.flatMap fun field => field.2.values).length ≤
        ((survivors fields).flatMap fun field => kept field.2).length ↔ FieldsKeep fields)
  | [], _ => ⟨List.Subperm.refl _, iff_of_true (Nat.le_refl _) trivial⟩
  | (key, value) :: rest, unambiguous => by
    obtain ⟨part, all⟩ := kept_part value unambiguous.1
    obtain ⟨parts, alls⟩ := fieldsKept_part rest unambiguous.2
    have fewer := part.length_le
    have fewers := parts.length_le
    rw [survivors, List.flatMap_cons, FieldsKeep, ← all, ← alls, List.length_append, ← List.length_eq_zero_iff]
    by_cases lost : key = "__proto__" ∨ replaced key rest = true
    · rw [if_pos lost]
      refine ⟨parts.trans (List.sublist_append_right _ _).subperm, ?_⟩
      simp only [lost, true_implies]
      omega
    · rw [if_neg lost, List.flatMap_cons, List.length_append]
      refine ⟨part.append parts, ?_⟩
      simp only [lost, false_implies, true_and]
      omega

end

/-! ## Losing nothing -/

/-- A payload as it is parsed. -/
structure ParsedPayload (ν : Type) where
  value : Json ν
  unambiguous : value.Unambiguous

/-- An object has a compressed value, and every leaf is in it, at a place that tells where it was. -/
structure Lossless (stringifiedLength : Json ν → Nat) (payload : Json ν) : Prop where
  defined : ∀ fields, payload = .obj fields → ∃ update, compressArchive stringifiedLength payload = .ok update
  kept : Recovers payload ((compressPayload payload).getD .null)

theorem values_compressed (payload : Json ν) : ((compressPayload payload).getD .null).values = kept payload := by
  rw [kept]
  cases compressPayload payload with
  | none => rfl
  | some compressed => rfl

private theorem compressed_unambiguous (payload : Json ν) : ((compressPayload payload).getD .null).Unambiguous := by
  rw [compressPayload_eq]
  cases cleanPayload payload with
  | none => trivial
  | some cleaned => exact normalizeFieldNames_unambiguous cleaned

/-- Compression loses nothing of a payload just when it does not vanish, being an object, and no
field with leaves loses its name. -/
theorem lossless_iff (stringifiedLength : Json ν → Nat) (payload : ParsedPayload ν) :
    Lossless stringifiedLength payload.value ↔
      (∀ fields, payload.value = .obj fields → fieldsVanish fields = false) ∧ Keeps payload.value := by
  obtain ⟨part, all⟩ := kept_part payload.value payload.unambiguous
  have defined : (∀ fields, payload.value = .obj fields →
      ∃ update, compressArchive stringifiedLength payload.value = .ok update) ↔
        ∀ fields, payload.value = .obj fields → fieldsVanish fields = false := by
    refine forall_congr' fun fields => forall_congr' fun shape => ?_
    have gone := cleanPayload_eq_none payload.value
    rw [compressArchive, compressPayload_eq, ← Bool.not_eq_true]
    rw [show fieldsVanish fields = vanishes payload.value by rw [shape, vanishes], ← gone]
    cases cleanPayload payload.value with
    | none => simp
    | some cleaned => simp
  constructor
  · intro lossless
    refine ⟨defined.mp lossless.defined, all.mp ?_⟩
    rw [← values_compressed]
    exact length_le_of_recovers payload.unambiguous lossless.kept
  · rintro ⟨stays, keeps⟩
    refine ⟨defined.mpr stays, recovers_of_perm (compressed_unambiguous _) ?_⟩
    rw [values_compressed]
    exact (part.perm_of_length_le (all.mpr keeps)).symm

/-- A status under its long and under its short name. -/
def twoStatuses : Json Nat := .obj [("status", .num 1), ("st", .num 2)]

/-- A note that is empty. -/
def emptyNote : Json Nat := .obj [("note", .null)]

/-- One of two leaves is lost, and a payload without leaves has no compressed value. -/
theorem compression_loses :
    ¬ Lossless (fun _ => 8) twoStatuses ∧ ¬ Lossless (fun _ => 8) emptyNote := by
  constructor
  · intro lossless
    have unambiguous : twoStatuses.Unambiguous := ⟨by simp [Keyed.Distinct], trivial, trivial, trivial⟩
    have fewer := length_le_of_recovers unambiguous lossless.kept
    revert fewer
    decide
  · intro lossless
    obtain ⟨update, made⟩ := lossless.defined _ rfl
    cases made

end DriverMicroServices.ArchiveCompression
