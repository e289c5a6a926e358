import CandleCraft.Basic
import CandleCraft.Kernel.Text
import Mathlib.Data.List.Dedup
import Mathlib.Data.List.Sort
import Mathlib.Data.Prod.Lex
import Mathlib.Data.String.Basic

/-!
# The qualified cohort of a provider snapshot

The rows of a market-cap snapshot are classified as genuine cryptocurrencies, as other products, or
as neither for certain. A walk in the order of their raw ranks admits the genuine ones, withholds the
uncertain ones, and stops when as many of both have been met as the cohort is to have. The tables of
reviewed provider ids are a parameter.
-/

namespace CandleCraft.Universe

open PyText

section Rows

inductive Category where
  | genuine
  | unclassified
  | stablecoin
  | commodityPegged
  | wrappedOrBridged
  | liquidStakedOrRestaked
  | synthetic
  | leveragedProduct
  | tokenizedSecurity
  deriving DecidableEq

def Category.value : Category → String
  | genuine => "genuine"
  | unclassified => "unclassified"
  | stablecoin => "stablecoin"
  | commodityPegged => "commodity_pegged"
  | wrappedOrBridged => "wrapped_or_bridged"
  | liquidStakedOrRestaked => "liquid_staked_or_restaked"
  | synthetic => "synthetic"
  | leveragedProduct => "leveraged_product"
  | tokenizedSecurity => "tokenized_security"

def exclusionCategories : List Category :=
  [.stablecoin, .commodityPegged, .wrappedOrBridged, .liquidStakedOrRestaked, .synthetic,
    .leveragedProduct, .tokenizedSecurity]

def representationTagPriority : List (String × Category) :=
  [("stablecoin", .stablecoin), ("gold-backed", .commodityPegged),
    ("xstocks-ecosystem", .tokenizedSecurity), ("wrapped-token", .wrappedOrBridged)]

/-- The reviewed provider ids, `GENUINE_BY_PROVIDER_ID` and `EXCLUSION_BY_PROVIDER_ID`. -/
structure Registry where
  genuine : List String
  exclusions : List (String × Category)
  excluded : ∀ entry ∈ exclusions, entry.2 ∈ exclusionCategories
  disjoint : ∀ entry ∈ exclusions, entry.1 ∉ genuine

/-- The rank of a row: a truth value, an absent value or the empty text; what `int` rejects; an
integer. -/
inductive RankField where
  | missing
  | malformed
  | integer (n : ℤ)
  deriving DecidableEq

/-- A tag: its text or the text of its id, or something else. -/
inductive TagItem where
  | text (s : String)
  | malformed
  deriving DecidableEq

inductive TagsField where
  | absent
  | malformed
  | items (tags : List TagItem)
  deriving DecidableEq

/-- A row of the snapshot. The time of its last update is absent if it does not parse. -/
structure AssetRow where
  id : Option String
  symbol : Option String
  name : Option String
  rank : RankField
  qualificationClass : Option String
  tags : TagsField
  marketCap : NumericField
  lastUpdated : Option Instant
  deriving DecidableEq

def providerId (row : AssetRow) : Option String :=
  match row.id with
  | none => none
  | some value => if lower (strip value) = "" then none else some (lower (strip value))

def providerSymbol (row : AssetRow) : String :=
  match row.symbol with
  | none => ""
  | some value => upper (strip value)

def providerName (row : AssetRow) : String :=
  match row.name with
  | none => ""
  | some value => strip value

inductive RawRank where
  | missing
  | invalid
  | valid (rank : ℕ)
  deriving DecidableEq

def rawRank (row : AssetRow) : RawRank :=
  match row.rank with
  | .missing => .missing
  | .malformed => .invalid
  | .integer n => if n < 1 then .invalid else .valid n.toNat

def marketCap (row : AssetRow) : Option ℚ :=
  match row.marketCap with
  | .number value => if 0 < value then some value else none
  | _ => none

end Rows

section Membership

/-- The errors of the classification. Each message contains "ambiguous identity evidence". -/
inductive Ambiguity where
  | unknownClass (category : String)
  | conflictingEvidence (providerId : String)
  | malformedTags
  | malformedTag
  deriving DecidableEq

variable (registry : Registry) (row : AssetRow)

def explicitCategory : Except Ambiguity (Option Category) :=
  match row.qualificationClass with
  | none => .ok none
  | some value =>
    if value = "" then .ok none
    else
      let category := lower (strip value)
      match (Category.genuine :: exclusionCategories).find? fun c => c.value = category with
      | some c => .ok (some c)
      | none => .error (.unknownClass category)

def reviewedCategory : Option Category :=
  match providerId row with
  | none => none
  | some id => if id ∈ registry.genuine then some .genuine else registry.exclusions.lookup id

/-- The text of a tag in `_tag_ids`. -/
def tagId : TagItem → Except Ambiguity String
  | .text s => .ok (lower (strip s))
  | .malformed => .error .malformedTag

def tagIds : Except Ambiguity (List String) :=
  match row.tags with
  | .absent => .ok []
  | .malformed => .error .malformedTags
  | .items tags => (tags.mapM tagId).map fun ids => ids.filter fun id => id ≠ ""

def representationCategory : Except Ambiguity (Option Category) := do
  let tags ← tagIds row
  let found := ((representationTagPriority.filter fun entry => tags.contains entry.1).map
    Prod.snd).dedup
  if 1 < found.length then .error (.conflictingEvidence ((providerId row).getD "missing-id"))
  else .ok found.head?

def positiveCryptocurrencyCategory : Except Ambiguity (Option Category) := do
  let tags ← tagIds row
  .ok (if tags.contains "cryptocurrency" then some .genuine else none)

def categoryForAsset : Except Ambiguity Category := do
  let explicit ← explicitCategory row
  let reviewed := reviewedCategory registry row
  let represented ← representationCategory row
  let positive ← positiveCryptocurrencyCategory row
  match [explicit, reviewed, represented, positive].reduceOption with
  | [] => .ok .unclassified
  | chosen :: others =>
    if others.all fun candidate => candidate = chosen then .ok chosen
    else .error (.conflictingEvidence ((providerId row).getD "missing-id"))

/-- The kinds of `_asset_membership`. -/
inductive Kind where
  | genuine
  | withheld
  | excluded
  deriving DecidableEq

def assetMembership : Kind × String :=
  match categoryForAsset registry row with
  | .error _ => (.withheld, "ambiguous")
  | .ok .unclassified => (.withheld, Category.unclassified.value)
  | .ok .genuine => (.genuine, Category.genuine.value)
  | .ok category => (.excluded, category.value)

end Membership

section Cohorts

/-- `CanonicalUniverseError`, as `qualify_canonical_cohort` raises it. -/
inductive UniverseError where
  | cohortSize (size : ℕ)
  | duplicateIdentity (providerId : String)
  | noRankedAssets
  | duplicateRank (rank : ℕ)
  | missingRank (expected next : ℕ)
  | missingProviderId (rank : ℕ)
  | missingSymbol (providerId : String)
  | missingMarketCap (providerId : String)
  | missingLastUpdated (providerId : String)
  | staleRanking (providerId : String) (updated : Instant)
  | tooFewMembers (lastRank potential requested : ℕ)
  | incompleteIdentity (providerSymbol : String)
  deriving DecidableEq

structure QualifiedAsset where
  providerId : String
  providerSymbol : String
  providerName : String
  rawRank : ℕ
  qualifiedRank : Option ℕ
  qualifiedRankLower : ℕ
  qualifiedRankUpper : ℕ
  marketCap : ℚ
  lastUpdated : Instant
  deriving DecidableEq

structure QualificationExclusion where
  providerId : String
  providerSymbol : String
  rawRank : ℕ
  category : String
  deriving DecidableEq

structure CanonicalCohort where
  cohort : List QualifiedAsset
  exclusions : List QualificationExclusion
  eligibleSymbolCounts : List (String × ℕ)
  providerAssetCount : ℕ
  validRankCount : ℕ
  providerMaxRank : Option ℕ
  missingRankCount : ℕ
  invalidRankCount : ℕ
  invalidSymbolCount : ℕ
  qualifiedRankAboveCohortCount : ℕ
  withheld : List QualificationExclusion
  potentialMemberCount : ℕ
  providerLastUpdatedMin : Option Instant
  providerLastUpdatedMax : Option Instant
  deriving DecidableEq

variable (registry : Registry)

def rejectDuplicateProviderIds (seen : List String) : List AssetRow → Except UniverseError Unit
  | [] => .ok ()
  | row :: rows =>
    match providerId row with
    | none => rejectDuplicateProviderIds seen rows
    | some id =>
      if id ∈ seen then .error (.duplicateIdentity id)
      else rejectDuplicateProviderIds (id :: seen) rows

def withRank (row : AssetRow) : Option (ℕ × AssetRow) :=
  match rawRank row with
  | .valid rank => some (rank, row)
  | _ => none

/-- The sort key of `_ranked_assets`. -/
def rankKey (entry : ℕ × AssetRow) : ℕ ×ₗ String :=
  toLex (entry.1, (providerId entry.2).getD "")

def rankedAssets (rows : List AssetRow) : List (ℕ × AssetRow) :=
  (rows.filterMap withRank).insertionSort fun a b => rankKey a ≤ rankKey b

/-- `_require_provider_id`, `_require_provider_symbol`, `_require_market_cap` and
`_require_fresh_timestamp`, in this order. A row may be an hour old, or five minutes ahead. -/
def requireAsset (acquiredAt : Instant) (rank : ℕ) (row : AssetRow) :
    Except UniverseError (String × String × ℚ × Instant) :=
  match providerId row with
  | none => .error (.missingProviderId rank)
  | some id =>
    if providerSymbol row = "" then .error (.missingSymbol id)
    else
      match marketCap row with
      | none => .error (.missingMarketCap id)
      | some cap =>
        match row.lastUpdated with
        | none => .error (.missingLastUpdated id)
        | some updated =>
          if 3600000000 < acquiredAt - updated ∨ 300000000 < updated - acquiredAt then
            .error (.staleRanking id updated)
          else .ok (id, providerSymbol row, cap, updated)

/-- What the walk of `qualify_canonical_cohort` carries along. -/
structure Walk where
  cohort : List QualifiedAsset := []
  exclusions : List QualificationExclusion := []
  withheld : List QualificationExclusion := []
  expectedRank : ℕ := 1
  aboveCohort : ℕ := 0
  potential : ℕ := 0
  genuineBefore : ℕ := 0
  unknownBefore : ℕ := 0
  windowUpdates : List Instant := []
  deriving DecidableEq

def Walk.admitRow (walk : Walk) (rank : ℕ) (row : AssetRow) (id symbol : String) (cap : ℚ)
    (updated : Instant) : Walk :=
  let walk := { walk with
    expectedRank := walk.expectedRank + 1
    windowUpdates := walk.windowUpdates ++ [updated] }
  let (kind, category) := assetMembership registry row
  match kind with
  | .excluded => { walk with exclusions := walk.exclusions ++ [⟨id, symbol, rank, category⟩] }
  | .withheld => { walk with
      potential := walk.potential + 1
      unknownBefore := walk.unknownBefore + 1
      withheld := walk.withheld ++ [⟨id, symbol, rank, category⟩] }
  | .genuine =>
    let lower := walk.genuineBefore + 1
    let upper := walk.genuineBefore + walk.unknownBefore + 1
    { walk with
      potential := walk.potential + 1
      genuineBefore := walk.genuineBefore + 1
      cohort := walk.cohort ++ [{
        providerId := id
        providerSymbol := symbol
        providerName := providerName row
        rawRank := rank
        qualifiedRank := if lower = upper then some lower else none
        qualifiedRankLower := lower
        qualifiedRankUpper := upper
        marketCap := cap
        lastUpdated := updated }] }

def Walk.skip (walk : Walk) (row : AssetRow) : Walk :=
  if (assetMembership registry row).1 = .genuine ∧ providerSymbol row ≠ "" then
    { walk with aboveCohort := walk.aboveCohort + 1 }
  else walk

/-- One row of the walk of `qualify_canonical_cohort`. -/
def walkAsset (cohortSize : ℕ) (acquiredAt : Instant) (walk : Walk) (entry : ℕ × AssetRow) :
    Except UniverseError Walk :=
  if cohortSize ≤ walk.potential then .ok (walk.skip registry entry.2)
  else if entry.1 < walk.expectedRank then .error (.duplicateRank entry.1)
  else if walk.expectedRank < entry.1 then .error (.missingRank walk.expectedRank entry.1)
  else
    match requireAsset acquiredAt entry.1 entry.2 with
    | .error e => .error e
    | .ok (id, symbol, cap, updated) =>
      .ok (walk.admitRow registry entry.1 entry.2 id symbol cap updated)

def requireCompleteSymbolIdentities (rows : List AssetRow) (cohort : List QualifiedAsset) :
    Except UniverseError Unit :=
  rows.forM fun row =>
    if cohort.any (fun asset => asset.providerSymbol = providerSymbol row) ∧ providerId row = none
    then .error (.incompleteIdentity (providerSymbol row))
    else .ok ()

def genuineSymbolCounts (rows : List AssetRow) : List (String × ℕ) :=
  let identities := (rows.filterMap fun row =>
    match providerId row with
    | none => none
    | some id =>
      if providerSymbol row = "" ∨ (assetMembership registry row).1 = .excluded then none
      else some (providerSymbol row, id)).dedup
  (identities.map Prod.fst).dedup.map fun symbol =>
    (symbol, identities.countP fun identity => identity.1 = symbol)

def rankStatusCount (rows : List AssetRow) (status : RawRank) : ℕ :=
  rows.countP fun row => decide (rawRank row = status)

def qualifyCanonicalCohort (rows : List AssetRow) (cohortSize : ℕ) (acquiredAt : Instant) :
    Except UniverseError CanonicalCohort :=
  if cohortSize < 1 ∨ 100 < cohortSize then .error (.cohortSize cohortSize)
  else do
    rejectDuplicateProviderIds [] rows
    let ranked := rankedAssets rows
    match ranked.getLast? with
    | none => .error .noRankedAssets
    | some last =>
      let walk ← ranked.foldlM (walkAsset registry cohortSize acquiredAt) {}
      if walk.potential < cohortSize then
        .error (.tooFewMembers last.1 walk.potential cohortSize)
      else
        requireCompleteSymbolIdentities rows walk.cohort
        .ok
          { cohort := walk.cohort
            exclusions := walk.exclusions
            eligibleSymbolCounts := genuineSymbolCounts registry rows
            providerAssetCount := rows.length
            validRankCount := ranked.length
            providerMaxRank := some last.1
            missingRankCount := rankStatusCount rows .missing
            invalidRankCount := rankStatusCount rows .invalid
            invalidSymbolCount := rows.countP fun row => providerSymbol row = ""
            qualifiedRankAboveCohortCount := walk.aboveCohort
            withheld := walk.withheld
            potentialMemberCount := walk.potential
            providerLastUpdatedMin := walk.windowUpdates.min?
            providerLastUpdatedMax := walk.windowUpdates.max? }

end Cohorts

end CandleCraft.Universe
