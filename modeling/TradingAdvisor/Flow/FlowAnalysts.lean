import TradingAdvisor.Flow.FlowHistories
import TradingAdvisor.Lib.Citations

/-!
# The flow analysts

Six analysts classify the blocks of a snapshot by sign. An analyst drafts evidence and
observations in the order of the blocks; an observation cites evidence by position. Without an
observation it abstains.

* `FlowDraft`, `FlowDraft.cite` — evidence and observations drafted so far;
* `TakerFlowAnalyst.analyze`, …, `PriceFlowRelationshipAnalyst.analyze` — the analysts;
* `FlowAnalysisResult.construct` — the validators of a result;
* `analyze` — the analyst of a type.
-/

namespace TradingAdvisor

open Checks VersionedStore

/-! ## Vocabulary -/

/-- What aspect of flow behavior an observation describes. -/
inductive AnalysisDimension
  | directionalPressure
  | activityPresence
  | persistence
  | crossBandAgreement
  | magnitudeTrend
  | depthTrend
  | openInterestTrend
  | openInterestVelocityTrend
  | fundingSign
  | fundingTrend
  | basisSign
  | correlationRelationship
  | priceTakerRelationship
  | priceOpenInterestRelationship
  | priceLiquidationRelationship
  deriving DecidableEq, Repr

/-- Tally of a categorical value across a comparison set. -/
inductive AgreementVerdict
  | allAgree
  | mixed
  | insufficientData
  deriving DecidableEq, Repr

/-- The text of a verdict. -/
def AgreementVerdict.value : AgreementVerdict → String
  | .allAgree => "ALL_AGREE"
  | .mixed => "MIXED"
  | .insufficientData => "INSUFFICIENT_DATA"

/-- The names of the signs of a flow quantity. -/
structure FlowSigns where
  positive : String
  negative : String
  zero : String

/-- The name of the sign of a value. -/
def FlowSigns.category (signs : FlowSigns) (value : ℚ) : String :=
  if 0 < value then signs.positive else if value < 0 then signs.negative else signs.zero

/-- Sign of executed taker delta. -/
def takerFlowPressure : FlowSigns := ⟨"BUY_DOMINANT", "SELL_DOMINANT", "BALANCED"⟩

/-- Sign of forced-liquidation imbalance. -/
def liquidationPressure : FlowSigns :=
  ⟨"LONG_LIQUIDATIONS_DOMINANT", "SHORT_LIQUIDATIONS_DOMINANT", "BALANCED"⟩

/-- Sign of order-book depth imbalance. -/
def orderBookPressure : FlowSigns := ⟨"BID_HEAVIER", "ASK_HEAVIER", "BALANCED"⟩

/-- Sign of the depth change of one side. -/
def depthTrend : FlowSigns := ⟨"THICKENING", "THINNING", "UNCHANGED"⟩

/-- Sign of an open-interest change. -/
def openInterestTrend : FlowSigns := ⟨"EXPANDING", "CONTRACTING", "FLAT"⟩

/-- Sign of the latest funding rate. -/
def fundingSign : FlowSigns := ⟨"POSITIVE", "NEGATIVE", "ZERO"⟩

/-- Sign of a funding-rate trend. -/
def fundingTrend : FlowSigns := ⟨"RISING", "FALLING", "FLAT"⟩

/-- Sign of the mark/index basis. -/
def basisSign : FlowSigns := ⟨"MARK_ABOVE_INDEX", "MARK_BELOW_INDEX", "AT_PARITY"⟩

/-- Sign of a correlation. -/
def correlationRelationship : FlowSigns :=
  ⟨"POSITIVE_RELATIONSHIP", "NEGATIVE_RELATIONSHIP", "NO_RELATIONSHIP"⟩

/-- Whether a forced liquidation was observed. -/
def liquidationActivity (count : ℕ) : String :=
  if 0 < count then "ACTIVITY_PRESENT" else "NO_ACTIVITY"

/-- Comparison of the shortest window with the longest. -/
def ordinalTrend (shortest longest : ℚ) : String :=
  if longest < shortest then "INCREASING" else if shortest < longest then "DECREASING" else "STABLE"

/-- Sign relationship between a price return and a flow metric. -/
inductive PriceFlowRelationship
  | agreement
  | divergence
  | noDirection
  deriving DecidableEq, Repr

/-- The text of a relationship. -/
def PriceFlowRelationship.value : PriceFlowRelationship → String
  | .agreement => "AGREEMENT"
  | .divergence => "DIVERGENCE"
  | .noDirection => "NO_DIRECTION"

/-- The sign relationship of two values; a zero has no direction. -/
def relationship (priceValue otherValue : ℚ) : PriceFlowRelationship :=
  if priceValue = 0 ∨ otherValue = 0 then .noDirection
  else if (0 < priceValue) = (0 < otherValue) then .agreement else .divergence

/-- Tally of qualifying values; it takes two of them. -/
def tally {α : Type} [DecidableEq α] (values : List α) : AgreementVerdict :=
  if values.length < 2 then .insufficientData
  else if values.dedup.length = 1 then .allAgree else .mixed

/-! ## Results -/

/-- A number that was computed before, with its origin; its text is the number's. -/
structure FlowEvidence where
  featureName : String
  window : Option String
  observedValue : ℚ
  quality : FeatureQuality
  sourceTimestamp : Timestamp
  provenance : String

/-- One evidence-backed classification. -/
structure FlowAnalysisObservation where
  dimension : AnalysisDimension
  value : String
  quality : FeatureQuality
  window : Option String := none
  subject : Option String := none
  evidenceRefs : List ℕ

/-- Structured interpretation of one snapshot by one analyst. -/
structure FlowAnalysisResult extends AnalystResult FlowAnalystType FlowIdentity where
  observations : List FlowAnalysisObservation := []
  evidence : List FlowEvidence := []
  abstentionReasons : List String := []

/-- Why a result is not accepted. -/
inductive FlowResultError
  | emptyProvenance
  | noEvidence (dimension : AnalysisDimension)
  | invalidEvidenceIndex (dimension : AnalysisDimension) (ref : ℕ)
  | emptyValue (dimension : AnalysisDimension)
  | abstainedWithObservations
  | abstainedWithoutReason
  | abstainedWithQuality
  | analyzedWithReasons
  deriving DecidableEq

/-- The constraints of one observation, its citations being within the evidence. -/
def FlowAnalysisObservation.validate (evidenceCount : ℕ) (observation : FlowAnalysisObservation) :
    Except FlowResultError Unit := do
  check (observation.value ≠ "") (.emptyValue observation.dimension)
  check (observation.evidenceRefs ≠ []) (.noEvidence observation.dimension)
  observation.evidenceRefs.forM fun ref =>
    check (ref < evidenceCount) (.invalidEvidenceIndex observation.dimension ref)

/-- The constraints and validators of a result. -/
def FlowAnalysisResult.validate (result : FlowAnalysisResult) : Except FlowResultError Unit := do
  result.evidence.forM fun evidence => check (evidence.provenance ≠ "") .emptyProvenance
  result.observations.forM fun observation =>
    observation.validate result.evidence.length
  match result.status with
  | .abstained => do
      check (result.observations = []) .abstainedWithObservations
      check (result.abstentionReasons ≠ []) .abstainedWithoutReason
      check (result.quality = .unavailable) .abstainedWithQuality
  | .analyzed => check (result.abstentionReasons = []) .analyzedWithReasons

/-- A result is constructed when it is accepted. -/
def FlowAnalysisResult.construct (result : FlowAnalysisResult) :
    Except FlowResultError FlowAnalysisResult := do
  result.validate
  return result

/-! ## Drafts -/

/-- Evidence and observations drafted so far. -/
structure FlowDraft where
  evidence : List FlowEvidence := []
  observations : List FlowAnalysisObservation := []

namespace FlowDraft

variable (draft : FlowDraft)

/-- Add evidence that nothing cites. -/
def note (evidence : FlowEvidence) : FlowDraft :=
  { draft with evidence := draft.evidence ++ [evidence] }

/-- Add evidence and an observation of its quality that cites it. -/
def cite (evidence : FlowEvidence) (dimension : AnalysisDimension) (value : String)
    (window subject : Option String) : FlowDraft where
  evidence := draft.evidence ++ [evidence]
  observations := draft.observations ++ [{
    dimension, value, window, subject
    quality := evidence.quality
    evidenceRefs := [draft.evidence.length] }]

/-- Add an observation about evidence noted before. -/
def observe (dimension : AnalysisDimension) (value : String) (quality : FeatureQuality)
    (evidenceRefs : List ℕ) : FlowDraft :=
  { draft with
    observations := draft.observations ++ [{ dimension, value, quality, evidenceRefs }] }

end FlowDraft

/-- A value noted in a window, with the place and the quality of its evidence. -/
structure Noted (α : Type) where
  value : α
  window : AnalyticsWindow
  ref : ℕ
  quality : FeatureQuality

/-- The shortest and the longest window, when there are two. -/
def shortestAndLongest {α : Type} (notes : List (Noted α)) : Option (Noted α × Noted α) :=
  let ordered := notes.insertionSort fun a b =>
    (a.window.duration : ℤ) ≤ (b.window.duration : ℤ)
  match ordered, ordered.getLast? with
  | shortest :: _ :: _, some longest => some (shortest, longest)
  | _, _ => none

/-- The observation of the magnitude trend of values, when there are some. -/
def FlowDraft.magnitudeTrend (draft : FlowDraft) (notes : List (Noted ℚ)) : FlowDraft :=
  match shortestAndLongest notes, notes with
  | some (shortest, longest), _ =>
      draft.observe .magnitudeTrend (ordinalTrend shortest.value longest.value)
        (worseOfMany [shortest.quality, longest.quality]) [shortest.ref, longest.ref]
  | none, only :: _ =>
      draft.observe .magnitudeTrend "INSUFFICIENT_DATA" only.quality [only.ref]
  | none, [] => draft

/-- The observation that tallies categories, when there are some. -/
def FlowDraft.agreement (draft : FlowDraft) (dimension : AnalysisDimension)
    (notes : List (Noted String)) : FlowDraft :=
  if notes = [] then draft
  else draft.observe dimension (tally (notes.map Noted.value)).value
    (worseOfMany (notes.map Noted.quality)) (notes.map Noted.ref)

/-! ## Analysts -/

section Analysts

variable (snapshot : FlowFeatureSnapshot FlowBlocks)

/-- The origin of a domain. -/
def provenanceLabel (domain : String) : String :=
  ((snapshot.provenance.find? fun entry => entry.1 = domain).map Prod.snd).getD "unknown"

/-- Traceable evidence about the snapshot. -/
def makeFlowEvidence (domain featureName : String) (window : Option String) (observedValue : ℚ)
    (quality : FeatureQuality) : FlowEvidence :=
  { featureName, window, observedValue, quality
    sourceTimestamp := snapshot.identity.observationTime
    provenance := provenanceLabel snapshot domain }

/-- The result of what was drafted; without observations it is an abstention. -/
def FlowDraft.conclude (draft : FlowDraft) (key : FlowAnalystType) (reason : String)
    (provenance : List (String × String)) : Except FlowResultError FlowAnalysisResult :=
  if draft.observations = [] then
    FlowAnalysisResult.construct {
      key
      identity := snapshot.identity
      status := .abstained
      quality := .unavailable
      abstentionReasons := [reason] }
  else
    FlowAnalysisResult.construct {
      key
      identity := snapshot.identity
      status := .analyzed
      quality := worseOfMany (draft.observations.map FlowAnalysisObservation.quality)
      provenance
      observations := draft.observations
      evidence := draft.evidence }

namespace TakerFlowAnalyst

/-- What has been noted of the taker flow. -/
structure Notes where
  draft : FlowDraft := {}
  pressures : List (Noted String) := []
  rates : List (Noted ℚ) := []

/-- One window: its pressure, and its rate as evidence. -/
def window (notes : Notes) (entry : String × TakerFlowWindowFeatures) : Notes :=
  let (label, features) := entry
  let quality := features.status.quality
  if quality = .unavailable then notes
  else
    let evidence featureName value :=
      makeFlowEvidence snapshot "taker_flow" featureName (some label) value quality
    let category := takerFlowPressure.category features.delta
    let cited := notes.draft.cite (evidence "taker_flow.delta" features.delta)
      .directionalPressure category (some label) none
    { draft := cited.note (evidence "taker_flow.delta_rate" features.deltaRate)
      pressures := notes.pressures ++
        [⟨category, features.window, notes.draft.evidence.length, quality⟩]
      rates := notes.rates ++
        [⟨features.deltaRate, features.window, cited.evidence.length, quality⟩] }

/-- Interpretation of executed taker buy and sell pressure. -/
def draft : FlowDraft :=
  let notes := snapshot.blocks.takerFlow.entries.foldl (window snapshot) {}
  (notes.draft.agreement .persistence notes.pressures).magnitudeTrend notes.rates

/-- Deterministic interpretation of executed taker buy/sell flow pressure. -/
def analyze : Except FlowResultError FlowAnalysisResult :=
  (draft snapshot).conclude snapshot .takerFlow
    "no taker-flow window has usable (non-UNAVAILABLE) data"
    [("taker_flow", provenanceLabel snapshot "taker_flow")]

end TakerFlowAnalyst

namespace LiquidationAnalyst

/-- One window: the pressure and the activity. -/
def window (draft : FlowDraft) (entry : String × LiquidationWindowFeatures) : FlowDraft :=
  let (label, features) := entry
  let quality := features.status.quality
  if quality = .unavailable then draft
  else
    let evidence featureName value :=
      makeFlowEvidence snapshot "liquidation" featureName (some label) value quality
    (draft.cite (evidence "liquidation.liquidation_imbalance" features.liquidationImbalance)
      .directionalPressure (liquidationPressure.category features.liquidationImbalance)
      (some label) none).cite
        (evidence "liquidation.liquidation_count" features.liquidationCount)
        .activityPresence (liquidationActivity features.liquidationCount) (some label) none

/-- Interpretation of forced liquidations. -/
def draft : FlowDraft := snapshot.blocks.liquidation.entries.foldl (window snapshot) {}

/-- Deterministic interpretation of forced-liquidation flow. -/
def analyze : Except FlowResultError FlowAnalysisResult :=
  (draft snapshot).conclude snapshot .liquidation
    "no liquidation window has usable (non-UNAVAILABLE) data"
    [("liquidation", provenanceLabel snapshot "liquidation")]

end LiquidationAnalyst

namespace OrderBookLiquidityAnalyst

/-- What has been noted of the bands; a band takes the place of a window. -/
structure Notes where
  draft : FlowDraft := {}
  pressures : List (String × ℕ × FeatureQuality) := []

/-- The depth changes of one side of a band. -/
def side (quality : FeatureQuality) (bandLabel sideName : String) (changes : Dict String ℚ)
    (draft : FlowDraft) : FlowDraft :=
  changes.entries.reverse.foldl (fun draft change =>
    draft.cite (makeFlowEvidence snapshot "order_book" ("order_book." ++ sideName ++
        "_depth_change") (some change.1) change.2 quality)
      .depthTrend (depthTrend.category change.2) (some change.1)
      (some (bandLabel ++ ":" ++ sideName))) draft

/-- One band: its pressure and the depth changes of both sides. -/
def band (notes : Notes) (label : String) (features : DepthBandFeatures) : Notes :=
  let quality := features.status.quality
  if quality = .unavailable then notes
  else
    let notes :=
      match features.depthImbalance with
      | none => notes
      | some imbalance =>
          let category := orderBookPressure.category imbalance
          { draft := notes.draft.cite (makeFlowEvidence snapshot "order_book"
              "order_book.depth_imbalance" none imbalance quality)
              .directionalPressure category none (some label)
            pressures := notes.pressures ++ [(category, notes.draft.evidence.length, quality)] }
    { notes with
      draft := side snapshot quality label "ask" features.askDepthChange
        (side snapshot quality label "bid" features.bidDepthChange notes.draft) }

/-- The top of the book, as evidence. -/
def topOfBook (orderBook : OrderBookFeatures) : List (String × ℚ) :=
  (orderBook.bestBid.map fun value => ("best_bid", (value : ℚ))).toList ++
    (orderBook.bestAsk.map fun value => ("best_ask", (value : ℚ))).toList ++
    (orderBook.spread.map fun value => ("spread", value)).toList ++
    (orderBook.spreadBps.map fun value => ("spread_bps", value)).toList ++
    (orderBook.midPrice.map fun value => ("mid_price", value)).toList

/-- Interpretation of the depth of the order book. -/
def draft : FlowDraft :=
  match snapshot.blocks.orderBook with
  | none => {}
  | some orderBook =>
      if orderBook.status.quality = .unavailable then {}
      else
        let top := (topOfBook orderBook).foldl (fun draft entry =>
          draft.note (makeFlowEvidence snapshot "order_book" ("order_book." ++ entry.1) none
            entry.2 orderBook.status.quality)) ({} : FlowDraft)
        let notes := orderBook.bands.entries.reverse.foldl (fun notes entry =>
          band snapshot notes entry.1 entry.2) { draft := top }
        if notes.pressures = [] then notes.draft
        else notes.draft.observe .crossBandAgreement (tally (notes.pressures.map Prod.fst)).value
          (worseOfMany (notes.pressures.map fun note => note.2.2))
          (notes.pressures.map fun note => note.2.1)

/-- Deterministic interpretation of order-book depth/liquidity imbalance. -/
def analyze : Except FlowResultError FlowAnalysisResult :=
  (draft snapshot).conclude snapshot .orderBookLiquidity "no order book snapshot available"
    [("order_book", provenanceLabel snapshot "order_book")]

end OrderBookLiquidityAnalyst

namespace OpenInterestAnalyst

/-- What has been noted of the open interest: the trend and the change of each window. -/
structure Notes where
  draft : FlowDraft := {}
  trends : List (Noted (String × ℚ)) := []

/-- The trend of one window. -/
def trend (notes : Notes) (label : String) (features : OpenInterestWindowFeatures)
    (percentChange : ℚ) : Notes :=
  let quality := features.status.quality
  let category := openInterestTrend.category percentChange
  { draft := notes.draft.cite (makeFlowEvidence snapshot "open_interest"
      "open_interest.percent_change" (some label) percentChange quality)
      .openInterestTrend category (some label) none
    trends := notes.trends ++
      [⟨(category, percentChange), features.window, notes.draft.evidence.length, quality⟩] }

/-- The velocity of one window. -/
def velocity (draft : FlowDraft) (label : String) (quality : FeatureQuality) (value : ℚ) :
    FlowDraft :=
  draft.cite (makeFlowEvidence snapshot "open_interest" "open_interest.oi_velocity" (some label)
      value quality)
    .openInterestVelocityTrend (openInterestTrend.category value) (some label) none

/-- One window: its trend and its velocity. -/
def window (notes : Notes) (entry : String × OpenInterestWindowFeatures) : Notes :=
  let (label, features) := entry
  if features.status.quality = .unavailable then notes
  else
    let notes := features.percentChange.elim notes (trend snapshot notes label features)
    { notes with
      draft := features.oiVelocity.elim notes.draft
        (velocity snapshot notes.draft label features.status.quality) }

/-- Interpretation of the change of the open interest. -/
def draft : FlowDraft :=
  match snapshot.blocks.openInterest with
  | none => {}
  | some openInterest =>
      if openInterest.status.quality = .unavailable then {}
      else
        let notes := openInterest.windows.entries.foldl (window snapshot) {}
        (notes.draft.agreement .persistence
          (notes.trends.map fun note => { note with value := note.value.1 })).magnitudeTrend
            (notes.trends.map fun note => { note with value := note.value.2 })

/-- Deterministic interpretation of open-interest change. -/
def analyze : Except FlowResultError FlowAnalysisResult :=
  (draft snapshot).conclude snapshot .openInterest "no open-interest observation available"
    [("open_interest", provenanceLabel snapshot "open_interest")]

end OpenInterestAnalyst

namespace FundingAnalyst

/-- Cite a value of a window, or of none, when it is there. -/
def sign (draft : FlowDraft) (quality : FeatureQuality) (featureName : String)
    (window : Option String) (dimension : AnalysisDimension) (signs : FlowSigns)
    (value : Option ℚ) : FlowDraft :=
  value.elim draft fun value =>
    draft.cite (makeFlowEvidence snapshot "funding" featureName window value quality) dimension
      (signs.category value) window none

/-- One window: its trend, and the deviation as evidence only. -/
def window (draft : FlowDraft) (entry : String × FundingWindowFeatures) : FlowDraft :=
  let (label, features) := entry
  let quality := features.status.quality
  if quality = .unavailable then draft
  else
    let draft := sign snapshot draft quality "funding.funding_trend" (some label) .fundingTrend
      fundingTrend features.fundingTrend
    features.rollingStddev.elim draft fun value =>
      draft.note (makeFlowEvidence snapshot "funding" "funding.rolling_stddev" (some label) value
        quality)

/-- Interpretation of funding rate and basis. -/
def draft : FlowDraft :=
  match snapshot.blocks.funding with
  | none => {}
  | some funding =>
      let quality := funding.status.quality
      if quality = .unavailable then {}
      else
        let rate := sign snapshot {} quality "funding.latest_funding_rate" none .fundingSign
          fundingSign funding.latestFundingRate
        let basis := sign snapshot rate quality "funding.mark_index_basis_bps" none .basisSign
          basisSign funding.markIndexBasisBps
        funding.windows.entries.foldl (window snapshot) basis

/-- Deterministic interpretation of funding-rate and mark/index basis. -/
def analyze : Except FlowResultError FlowAnalysisResult :=
  (draft snapshot).conclude snapshot .funding "no funding observation available"
    [("funding", provenanceLabel snapshot "funding")]

end FundingAnalyst

namespace PriceFlowRelationshipAnalyst

/-- The non-price side of one comparison. -/
structure Leg where
  value : ℚ
  featureName : String
  quality : FeatureQuality
  domain : String

/-- The taker flow of a window, when it is usable. -/
def takerLeg (label : String) : Option Leg :=
  (snapshot.blocks.takerFlow.get? label).bind fun features =>
    if features.status.quality = .unavailable then none
    else some ⟨features.delta, "taker_flow.delta", features.status.quality, "taker_flow"⟩

/-- The open interest of a window, when it is usable. -/
def openInterestLeg (label : String) : Option Leg :=
  snapshot.blocks.openInterest.bind fun openInterest =>
    (openInterest.windows.get? label).bind fun features =>
      if features.status.quality = .unavailable then none
      else features.percentChange.map fun value =>
        ⟨value, "open_interest.percent_change", features.status.quality, "open_interest"⟩

/-- The liquidations of a window, when they are usable. -/
def liquidationLeg (label : String) : Option Leg :=
  (snapshot.blocks.liquidation.get? label).bind fun features =>
    if features.status.quality = .unavailable then none
    else some ⟨features.liquidationImbalance, "liquidation.liquidation_imbalance",
      features.status.quality, "liquidation"⟩

/-- The comparisons of one window, in their order. -/
def legs (label : String) : List (AnalysisDimension × Leg) :=
  ((takerLeg snapshot label).map fun leg => (.priceTakerRelationship, leg)).toList ++
    ((openInterestLeg snapshot label).map fun leg =>
      (.priceOpenInterestRelationship, leg)).toList ++
    ((liquidationLeg snapshot label).map fun leg => (.priceLiquidationRelationship, leg)).toList

/-- The correlation of one window. -/
def cross (draft : FlowDraft) (entry : String × CrossFeatureObservation) : FlowDraft :=
  let (label, observation) := entry
  if observation.status.quality = .unavailable then draft
  else
    observation.correlation.elim draft fun value =>
      draft.cite (makeFlowEvidence snapshot "price_context"
          ("cross_features." ++ observation.pairLabel ++ ".correlation") (some label) value
          observation.status.quality)
        .correlationRelationship (correlationRelationship.category value) (some label)
        (some observation.pairLabel)

/-- The relationship of the price return with one flow metric. -/
def appendRelationship (label : String) (returnPct : ℚ) (quality : FeatureQuality)
    (draft : FlowDraft) (comparison : AnalysisDimension × Leg) : FlowDraft :=
  let (dimension, other) := comparison
  let i := draft.evidence.length
  let evidence := [
    makeFlowEvidence snapshot "price_context" "price_context.return_pct" (some label) returnPct
      quality,
    makeFlowEvidence snapshot other.domain other.featureName (some label) other.value
      other.quality]
  { evidence := draft.evidence ++ evidence
    observations := draft.observations ++ [{
      dimension
      value := (relationship returnPct other.value).value
      quality := worseOfMany [quality, other.quality]
      window := some label
      evidenceRefs := [i, i + 1] }] }

/-- The relationships of one window. -/
def price (draft : FlowDraft) (entry : String × PriceContextWindowFeatures) : FlowDraft :=
  let (label, features) := entry
  if features.status.quality = .unavailable then draft
  else
    features.returnPct.elim draft fun returnPct =>
      (legs snapshot label).foldl
        (appendRelationship snapshot label returnPct features.status.quality) draft

/-- Interpretation of price against flow. -/
def draft : FlowDraft :=
  snapshot.blocks.priceContext.entries.foldl (price snapshot)
    (snapshot.blocks.crossFeatures.entries.foldl (cross snapshot) {})

/-- The origins of the related domains that have one. -/
def provenance : List (String × String) :=
  ["price_context", "taker_flow", "open_interest", "liquidation"].filterMap fun domain =>
    snapshot.provenance.find? fun entry => entry.1 = domain

/-- Deterministic interpretation of price-vs-flow relationships. -/
def analyze : Except FlowResultError FlowAnalysisResult :=
  (draft snapshot).conclude snapshot .priceFlowRelationship
    "no price/flow relationship evidence available" (provenance snapshot)

end PriceFlowRelationshipAnalyst

/-- The analyst of a type. -/
def FlowAnalystType.analyze : FlowAnalystType → Except FlowResultError FlowAnalysisResult
  | .takerFlow => TakerFlowAnalyst.analyze snapshot
  | .liquidation => LiquidationAnalyst.analyze snapshot
  | .orderBookLiquidity => OrderBookLiquidityAnalyst.analyze snapshot
  | .openInterest => OpenInterestAnalyst.analyze snapshot
  | .funding => FundingAnalyst.analyze snapshot
  | .priceFlowRelationship => PriceFlowRelationshipAnalyst.analyze snapshot

end Analysts

end TradingAdvisor
