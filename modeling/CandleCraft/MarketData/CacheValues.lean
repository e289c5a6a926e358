import CandleCraft.Kernel.Json
import CandleCraft.Kernel.NumeralText
import CandleCraft.Kernel.Scan

/-!
# The values of the market data cache

`_serialize_value` writes a decimal, a tuple, a list and a dict as a JSON object with a field that
names the type. The entries of a dict are an array of pairs, so a key of the data is never taken for
the field that names a type. A value of a model class is its class and its data.
-/

namespace CandleCraft.MarketData

open PyDecimal

section Values

inductive Scalar where
  | null
  | bool (b : Bool)
  | int (n : ℤ)
  deriving DecidableEq

inductive CacheValue where
  /-- `None`. -/
  | null
  | bool (b : Bool)
  | int (n : ℤ)
  | str (s : String)
  | decimal (d : Numeral)
  /-- A decimal that is not finite, by its text. -/
  | special (text : String)
  | list (items : List CacheValue)
  | tuple (items : List CacheValue)
  | dict (items : List (CacheValue × CacheValue))
  | model (className : String) (data : Json Scalar)

/-- A piece of what a hashable value is compared by. -/
inductive Token where
  | nothing
  | number (value : ℚ)
  | text (s : String)
  | special (text : String)
  | opened
  | closed
  deriving DecidableEq

namespace CacheValue

mutual

/-- What a key of a dict is compared by, if it is hashable: numbers of all types by their value. -/
def hashKey : CacheValue → Option (List Token)
  | .null => some [.nothing]
  | .bool b => some [.number (if b then 1 else 0)]
  | .int n => some [.number n]
  | .str s => some [.text s]
  | .decimal d => some [.number d.value]
  | .special text => some [.special text]
  | .tuple items => (hashKeys items).map fun tokens => .opened :: tokens ++ [.closed]
  | .list _ | .dict _ | .model _ _ => none

def hashKeys : List CacheValue → Option (List Token)
  | [] => some []
  | item :: items =>
    match item.hashKey, hashKeys items with
    | some tokens, some rest => some (tokens ++ rest)
    | _, _ => none

end

mutual

/-- A value that is nested from `None`, booleans, integers, texts, finite decimals, lists, tuples
and dicts, where the keys of a dict are hashable and different. -/
def Plain : CacheValue → Prop
  | .null | .bool _ | .int _ | .str _ | .decimal _ => True
  | .list items => PlainAll items
  | .tuple items => PlainAll items
  | .dict items => PlainItems items ∧ (∀ item ∈ items, item.1.hashKey ≠ none) ∧
      (items.map fun item => item.1.hashKey).Nodup
  | .special _ | .model _ _ => False

def PlainAll : List CacheValue → Prop
  | [] => True
  | item :: items => item.Plain ∧ PlainAll items

def PlainItems : List (CacheValue × CacheValue) → Prop
  | [] => True
  | (key, value) :: items => key.Plain ∧ value.Plain ∧ PlainItems items

end

end CacheValue

end Values

section Writing

def cacheTypeField : String := "__cache_type__"

def tagged (cacheType : String) (fields : List (String × Json Scalar)) : Json Scalar :=
  .obj ((cacheTypeField, .str cacheType) :: fields)

mutual

def serializeValue : CacheValue → Json Scalar
  | .model className data => tagged "pydantic" [("class", .str className), ("data", data)]
  | .decimal d => tagged "decimal" [("value", .str d.str)]
  | .special text => tagged "decimal" [("value", .str text)]
  | .tuple items => tagged "tuple" [("items", .arr (serializeAll items))]
  | .list items => tagged "list" [("items", .arr (serializeAll items))]
  | .dict items => tagged "dict" [("items", .arr (serializeItems items))]
  | .null => .scalar .null
  | .bool b => .scalar (.bool b)
  | .int n => .scalar (.int n)
  | .str s => .str s

def serializeAll : List CacheValue → List (Json Scalar)
  | [] => []
  | item :: items => serializeValue item :: serializeAll items

def serializeItems : List (CacheValue × CacheValue) → List (Json Scalar)
  | [] => []
  | (key, value) :: items => .arr [serializeValue key, serializeValue value] :: serializeItems items

end

end Writing

section Reading

/-- What `_deserialize_value` raises. -/
inductive DecodeError where
  | unknownModel
  | invalidDecimal
  | malformedDecimal
  | nonFiniteDecimal
  | notIterable
  | unpack
  | unhashable
  /-- The calls are nested too deep. -/
  | recursion
  deriving DecidableEq

mutual

/-- JSON as the values that `json.loads` returns. -/
def rawValue : Json Scalar → CacheValue
  | .scalar .null => .null
  | .scalar (.bool b) => .bool b
  | .scalar (.int n) => .int n
  | .str s => .str s
  | .arr items => .list (rawAll items)
  | .obj fields => .dict (rawFields fields)

def rawAll : List (Json Scalar) → List CacheValue
  | [] => []
  | item :: items => rawValue item :: rawAll items

def rawFields : List (String × Json Scalar) → List (CacheValue × CacheValue)
  | [] => []
  | (name, value) :: fields => (.str name, rawValue value) :: rawFields fields

end

/-- What an iteration over a value yields; a missing one is replaced by `()`. -/
def elements : Option (Json Scalar) → Except DecodeError (List (Json Scalar))
  | none => .ok []
  | some (.arr items) => .ok items
  | some (.str s) => .ok (s.toList.map fun c => .str (String.singleton c))
  | some (.obj fields) => .ok (fields.map fun field => .str field.1)
  | some (.scalar _) => .error .notIterable

def unpack (value : Json Scalar) : Except DecodeError (Json Scalar × Json Scalar) :=
  match elements (some value) with
  | .ok [key, item] => .ok (key, item)
  | .ok _ => .error .unpack
  | .error e => .error e

def decodeDecimal (preserveNonFinite : Bool) :
    Option (Json Scalar) → Except DecodeError CacheValue
  | some (.str text) =>
    match read text with
    | .finite d => .ok (.decimal d)
    | .nonFinite => if preserveNonFinite then .ok (.special text) else .error .nonFiniteDecimal
    | .malformed => .error .malformedDecimal
  | some (.scalar (.int n)) => .ok (.decimal ⟨decide (n < 0), n.natAbs, 0⟩)
  | some (.arr _) | some (.obj _) => .error .malformedDecimal
  | _ => .error .invalidDecimal

def putItem (items : List (CacheValue × CacheValue)) (key value : CacheValue) :
    Except DecodeError (List (CacheValue × CacheValue)) :=
  if key.hashKey = none then .error .unhashable
  else if items.any fun item => decide (item.1.hashKey = key.hashKey) then
    .ok (items.map fun item => if item.1.hashKey = key.hashKey then (item.1, value) else item)
  else .ok (items ++ [(key, value)])

def isCandlePayload (keys : List CacheValue) : Bool :=
  ["open", "high", "low", "close"].all fun name =>
    keys.any fun key => decide (key.hashKey = some [.text name])

variable (loadModel : String → Option (Json Scalar → Except DecodeError CacheValue))

def decodeModel (fields : List (String × Json Scalar)) : Except DecodeError CacheValue :=
  match Json.get fields "class" with
  | some (.str className) =>
    match loadModel className with
    | some validate => validate ((Json.get fields "data").getD (.scalar .null))
    | none => .error .unknownModel
  | _ => .error .unknownModel

/-- `_deserialize_value`, for calls that are nested at most so deep. -/
def deserializeWith : ℕ → Bool → Json Scalar → Except DecodeError CacheValue
  | 0, _, _ => .error .recursion
  | n + 1, preserve, .obj fields =>
    match Json.get fields cacheTypeField with
    | some (.str cacheType) =>
      if cacheType = "pydantic" then decodeModel loadModel fields
      else if cacheType = "decimal" then decodeDecimal preserve (Json.get fields "value")
      else if cacheType = "tuple" then do
        let items ← elements (Json.get fields "items")
        let values ← items.mapM (deserializeWith n preserve)
        .ok (.tuple values)
      else if cacheType = "list" then do
        let items ← elements (Json.get fields "items")
        let values ← items.mapM (deserializeWith n preserve)
        .ok (.list values)
      else if cacheType = "dict" then do
        let items ← elements (Json.get fields "items")
        let pairs ← items.mapM unpack
        let decoded ← pairs.mapM fun pair => do
          let key ← deserializeWith n false pair.1
          .ok (key, pair.2)
        if decoded.any fun item => decide (item.1.hashKey = none) then .error .unhashable
        else
          let allow := preserve || isCandlePayload (decoded.map Prod.fst)
          let entries ← decoded.foldlM (fun entries item => do
            let value ← deserializeWith n allow item.2
            putItem entries item.1 value) []
          .ok (.dict entries)
      else .ok (rawValue (.obj fields))
    | _ => .ok (rawValue (.obj fields))
  | _ + 1, _, json => .ok (rawValue json)

/-- `_deserialize_value`: the calls are nested no deeper than the JSON. -/
def deserializeValue (json : Json Scalar) : Except DecodeError CacheValue :=
  deserializeWith loadModel (json.depth + 1) false json

end Reading

section RoundTrip

variable {loadModel : String → Option (Json Scalar → Except DecodeError CacheValue)}
variable {items : List (CacheValue × CacheValue)}

theorem serializeItems_eq (items : List (CacheValue × CacheValue)) :
    serializeItems items =
      items.map fun item => .arr [serializeValue item.1, serializeValue item.2] := by
  induction items with
  | nil => rfl
  | cons item items ih => rw [serializeItems, ih, List.map_cons]

theorem putItem_new {key value : CacheValue}
    (hhash : key.hashKey ≠ none) (hnew : ∀ item ∈ items, item.1.hashKey ≠ key.hashKey) :
    putItem items key value = .ok (items ++ [(key, value)]) := by
  have hany : ¬ (items.any fun item => decide (item.1.hashKey = key.hashKey)) = true := by
    rw [List.any_eq_true]
    rintro ⟨item, hitem, hsame⟩
    exact hnew item hitem (of_decide_eq_true hsame)
  rw [putItem, if_neg hhash, if_neg hany]

/-- The entries of a dict with different keys are put one after the other. -/
theorem foldlM_putItem (decode : Json Scalar → Except DecodeError CacheValue)
    (items before : List (CacheValue × CacheValue))
    (hdecode : ∀ item ∈ items, decode (serializeValue item.2) = .ok item.2)
    (hhash : ∀ item ∈ items, item.1.hashKey ≠ none)
    (hnodup : ((before ++ items).map fun item => item.1.hashKey).Nodup) :
    (items.map fun item => (item.1, serializeValue item.2)).foldlM (fun entries item => do
      let value ← decode item.2
      putItem entries item.1 value) before = .ok (before ++ items) := by
  induction items generalizing before with
  | nil => rw [List.append_nil]; rfl
  | cons item items ih =>
    have hnew : ∀ e ∈ before, e.1.hashKey ≠ item.1.hashKey := by
      rw [List.map_append, List.map_cons, List.nodup_append] at hnodup
      exact fun e he => hnodup.2.2 _ (List.mem_map_of_mem he) _ List.mem_cons_self
    have hstep : (do
        let value ← decode (serializeValue item.2)
        putItem before item.1 value) = .ok (before ++ [item]) := by
      rw [hdecode item List.mem_cons_self]
      exact putItem_new (hhash item List.mem_cons_self) hnew
    rw [List.append_cons] at hnodup ⊢
    rw [List.map_cons, List.foldlM_cons, hstep]
    exact ih (before ++ [item]) (fun e he => hdecode e (List.mem_cons_of_mem _ he))
      (fun e he => hhash e (List.mem_cons_of_mem _ he)) hnodup

theorem decode_dict {n : ℕ} {preserve : Bool}
    (hkeys : ∀ item ∈ items, deserializeWith loadModel n false (serializeValue item.1) = .ok item.1)
    (hvalues : ∀ item ∈ items, ∀ preserve,
      deserializeWith loadModel n preserve (serializeValue item.2) = .ok item.2)
    (hhash : ∀ item ∈ items, item.1.hashKey ≠ none)
    (hnodup : (items.map fun item => item.1.hashKey).Nodup) :
    deserializeWith loadModel (n + 1) preserve (serializeValue (.dict items)) =
      .ok (.dict items) := by
  have hhashed : ¬ ((items.map fun item => (item.1, serializeValue item.2)).any fun item =>
      decide (item.1.hashKey = none)) = true := by
    rw [List.any_map, List.any_eq_true]
    rintro ⟨item, hitem, hnone⟩
    exact hhash item hitem (of_decide_eq_true hnone)
  rw [serializeValue, tagged, deserializeWith]
  simp only [Json.get, cacheTypeField, List.find?_cons, decide_true, Option.map_some, elements]
  simp only [String.reduceEq, decide_false, if_false, if_true, Option.map_some]
  dsimp only [bind, Except.bind]
  -- the decoder's three passes: the pairs, then their keys, then the values in order
  have hpairs : (serializeItems items).mapM unpack =
      .ok (items.map fun item => (serializeValue item.1, serializeValue item.2)) := by
    rw [serializeItems_eq, List.mapM_map]
    exact Scan.mapM_ok fun item _ => rfl
  rw [hpairs]
  dsimp only
  have hdecoded : (items.map fun item => (serializeValue item.1, serializeValue item.2)).mapM
      (fun pair => do
        let key ← deserializeWith loadModel n false pair.1
        .ok (key, pair.2)) =
        .ok (items.map fun item => (item.1, serializeValue item.2)) := by
    rw [List.mapM_map]
    refine Scan.mapM_ok fun item hitem => ?_
    rw [Function.comp_apply, hkeys item hitem]
    rfl
  dsimp only [bind, Except.bind] at hdecoded
  rw [hdecoded]
  dsimp only
  rw [if_neg hhashed]
  have hentries := foldlM_putItem (deserializeWith loadModel n
    (preserve || isCandlePayload ((items.map fun item => (item.1, serializeValue item.2)).map
      Prod.fst))) items [] (fun item hitem => hvalues item hitem _) hhash hnodup
  dsimp only [bind, Except.bind] at hentries
  rw [hentries]
  rfl

mutual

/-- A value is read back from its serialization. -/
theorem decode_serialize : ∀ (v : CacheValue), v.Plain → ∀ n preserve,
    (serializeValue v).depth < n → deserializeWith loadModel n preserve (serializeValue v) = .ok v
  | .null, _, n + 1, _, _ | .bool _, _, n + 1, _, _ | .int _, _, n + 1, _, _
  | .str _, _, n + 1, _, _ => rfl
  | .decimal d, _, n + 1, preserve, _ => by
    rw [serializeValue, tagged, deserializeWith]
    simp [Json.get, cacheTypeField, decodeDecimal, d.read_str]
  | .tuple items, hv, n + 1, preserve, hdepth | .list items, hv, n + 1, preserve, hdepth => by
    have hitems := decode_serializeAll items hv n preserve (by
      simp only [serializeValue, tagged, Json.depth, Json.depthFields] at hdepth
      omega)
    rw [serializeValue, tagged, deserializeWith]
    simp [Json.get, cacheTypeField, elements, bind, Except.bind, hitems]
  | .dict items, hv, n + 1, preserve, hdepth => by
    have hitems := decode_serializeItems items hv.1 n (by
      simp only [serializeValue, tagged, Json.depth, Json.depthFields] at hdepth
      omega)
    exact decode_dict (fun item hitem => (hitems item hitem false).1)
      (fun item hitem preserve => (hitems item hitem preserve).2) hv.2.1 hv.2.2

theorem decode_serializeAll : ∀ (items : List CacheValue), CacheValue.PlainAll items →
    ∀ n preserve, Json.depthAll (serializeAll items) < n →
    (serializeAll items).mapM (deserializeWith loadModel n preserve) = .ok items
  | [], _, _, _, _ => rfl
  | item :: items, hv, n, preserve, hdepth => by
    rw [serializeAll, Json.depthAll] at hdepth
    have hitem := decode_serialize item hv.1 n preserve (by omega)
    have hitems := decode_serializeAll items hv.2 n preserve (by omega)
    rw [serializeAll, List.mapM_cons, hitem, hitems]
    rfl

theorem decode_serializeItems : ∀ (items : List (CacheValue × CacheValue)),
    CacheValue.PlainItems items → ∀ n, Json.depthAll (serializeItems items) < n →
    ∀ item ∈ items, ∀ preserve,
      deserializeWith loadModel n preserve (serializeValue item.1) = .ok item.1 ∧
      deserializeWith loadModel n preserve (serializeValue item.2) = .ok item.2
  | [], _, _, _, item, hitem, _ => absurd hitem List.not_mem_nil
  | (key, value) :: items, hv, n, hdepth, item, hitem, preserve => by
    rw [serializeItems, Json.depthAll, Json.depth, Json.depthAll, Json.depthAll] at hdepth
    rcases List.mem_cons.1 hitem with rfl | hrest
    · exact ⟨decode_serialize key hv.1 n preserve (by omega),
        decode_serialize value hv.2.1 n preserve (by omega)⟩
    · exact decode_serializeItems items hv.2.2 n (by omega) item hrest preserve

end

/-- A value nested from `None`, booleans, integers, texts, finite decimals, lists, tuples and dicts
is read back from the text of its JSON, when JSON is. -/
theorem cache_values_round_trip {τ : Type*} (dumps : Json Scalar → τ)
    (loads : τ → Option (Json Scalar)) (hjson : ∀ json, loads (dumps json) = some json)
    (loadModel : String → Option (Json Scalar → Except DecodeError CacheValue))
    (v : CacheValue) (hv : v.Plain) :
    (loads (dumps (serializeValue v))).map (deserializeValue loadModel) = some (.ok v) := by
  rw [hjson, Option.map_some, deserializeValue]
  congr 1
  exact decode_serialize v hv _ false (Nat.lt_succ_self _)

def sampleValue : CacheValue :=
  .dict [(.str cacheTypeField, .list [.str "dict", .null]),
    (.tuple [.int 1, .decimal ⟨true, 150, -2⟩], .bool true)]

theorem plain_sampleValue : sampleValue.Plain := by
  refine ⟨⟨trivial, ⟨trivial, trivial, trivial⟩, ⟨trivial, trivial, trivial⟩, trivial, trivial⟩,
    ?_, ?_⟩
  · intro item hitem
    rcases List.mem_cons.1 hitem with rfl | hitem
    · exact Option.some_ne_none _
    · obtain rfl := List.mem_singleton.1 hitem
      exact Option.some_ne_none _
  · decide +kernel

theorem sample_value_round_trip :
    deserializeValue (fun _ => none) (serializeValue sampleValue) = .ok sampleValue :=
  Option.some.inj
    (cache_values_round_trip id some (fun _ => rfl) (fun _ => none) sampleValue plain_sampleValue)

end RoundTrip

end CandleCraft.MarketData
