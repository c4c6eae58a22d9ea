import Mathlib.Data.List.Dedup
import Mathlib.Data.List.Sort
import TradingAdvisor.Flow.Features
import TradingAdvisor.MarketEvaluation.Context
import TradingAdvisor.MarketEvaluation.Supervisor

/-!
# The news and sentiment analyst

News items of one symbol and the sentiment scores that providers attach to them. Scores are read
by their sign, strictly within one provider; a provider whose own scores differ in sign is mixed.
Across providers the signs that are not mixed are tallied.

* `ExternalIntelligenceAnalysisResult` — the result of an external analyst;
* `NewsSentimentAnalyst.analyze` — the analyst;
* `providerSigns`, `analyze_agreement` — **the agreement it reports is the tally of the signs it
  reports**.
-/

namespace TradingAdvisor

/-- The specialists of external intelligence. -/
inductive ExternalIntelligenceAnalystType
  | macroEvent
  | ratesYield
  | newsSentiment
  | onChain
  deriving DecidableEq, Repr

/-- What aspect of external intelligence an observation describes. -/
inductive ExternalIntelligenceDimension
  | eventImportance
  | eventProximity
  | eventPresence
  | surprise
  | actualVsPrevious
  | revisionDirection
  | policyRateTrend
  | yieldTrend
  | curveSlope
  | curveSlopeTrend
  | realNominalRelationship
  | relevantItemPresence
  | perProviderSentimentSign
  | sentimentProviderAgreement
  | activityTrend
  | supplyTrend
  | stablecoinSupplyTrend
  | exchangeNetFlow
  | exchangeBalanceTrend
  | stablecoinNetIssuance
  deriving DecidableEq, Repr

/-- What a traceable fact observed. -/
inductive ObservedValue
  | matched (value : Bool)
  | score (value : ℚ)
  deriving DecidableEq

/-- One traceable fact backing an observation. -/
structure ExternalIntelligenceEvidence where
  featureName : String
  observedValue : ObservedValue
  referenceValue : Option String
  quality : FeatureQuality
  sourceTimestamp : Timestamp
  sourceProvider : String
  sourceRecordId : String
  sourceReceivedAt : Timestamp
  provenance : String
  deriving DecidableEq

/-- One structured classification produced by an external analyst. -/
structure ExternalIntelligenceAnalysisObservation where
  dimension : ExternalIntelligenceDimension
  value : String
  quality : FeatureQuality
  subject : Option String := none
  evidenceRefs : List ℕ
  deriving DecidableEq

/-- Interpretation of one scope by one external analyst. -/
structure ExternalIntelligenceAnalysisResult where
  analystType : ExternalIntelligenceAnalystType
  currency : Option CurrencyCode := none
  symbol : Option Symbol := none
  asset : Option Asset := none
  network : Option String := none
  analysisTime : Timestamp
  status : AnalystOutcome
  observations : List ExternalIntelligenceAnalysisObservation := []
  evidence : List ExternalIntelligenceEvidence := []
  quality : FeatureQuality
  abstentionReasons : List String := []
  deriving DecidableEq

/-- Sign tally of one sentiment provider. -/
inductive SentimentSign
  | positive
  | negative
  | zero
  | mixed
  deriving DecidableEq, Repr

/-- The value of a sign. -/
def SentimentSign.value : SentimentSign → String
  | positive => "POSITIVE"
  | negative => "NEGATIVE"
  | zero => "ZERO"
  | mixed => "MIXED"

/-- Tally of the providers' signs. -/
inductive SentimentAgreementVerdict
  | allAgree
  | mixed
  | insufficientData
  deriving DecidableEq, Repr

/-- The value of a tally. -/
def SentimentAgreementVerdict.value : SentimentAgreementVerdict → String
  | allAgree => "ALL_AGREE"
  | mixed => "MIXED"
  | insufficientData => "INSUFFICIENT_DATA"

/-- One provider-reported news item. -/
structure NewsItem where
  provider : NonemptyText
  providerItemId : NonemptyText
  publishedAt : Timestamp
  receivedAt : Timestamp
  providerSymbols : List String := []
  deriving DecidableEq

/-- One provider-reported sentiment about a news item. -/
structure NewsSentimentObservation where
  provider : NonemptyText
  sourceProvider : NonemptyText
  sourceProviderItemId : NonemptyText
  sourceReceivedAt : Timestamp
  publishedAt : Timestamp
  sentimentScore : Option ℚ := none
  receivedAt : Timestamp
  deriving DecidableEq

/-- Explicit thresholds of the analyst. -/
structure NewsSentimentAnalystConfig where
  recencyWindow : ℤ
  stalenessThreshold : ℤ

/-- Freshness of a fact; a fact of the future is fresh. -/
def classifyQuality (sourceTime analysisTime : Timestamp) (stalenessThreshold : ℤ) :
    FeatureQuality :=
  if analysisTime - sourceTime ≤ stalenessThreshold then .valid else .stale

/-- Sign of a score. -/
def signCategory (score : ℚ) : SentimentSign :=
  if 0 < score then .positive else if score < 0 then .negative else .zero

namespace NewsSentimentAnalyst

variable (symbol : Symbol) (analysisTime : Timestamp) (config : NewsSentimentAnalystConfig)

/-- Lexicographic order of a provider, a record and a time. -/
def recordLe (a b : String × String × Timestamp) : Prop :=
  a.1 < b.1 ∨ a.1 = b.1 ∧ (a.2.1 < b.2.1 ∨ a.2.1 = b.2.1 ∧ a.2.2 ≤ b.2.2)

instance : DecidableRel recordLe := fun _ _ => inferInstanceAs (Decidable (_ ∨ _))

/-- The identity of a news item's version. -/
def itemKey (item : NewsItem) : String × String × Timestamp :=
  (item.provider, item.providerItemId, item.receivedAt)

/-- The provider names the symbol. -/
def Matched (item : NewsItem) : Prop := symbol.val ∈ item.providerSymbols

instance (item : NewsItem) : Decidable (Matched symbol item) := inferInstanceAs (Decidable (_ ∈ _))

/-- The items whose relevance is determined, in canonical order. -/
def determinedItems (newsItems : List NewsItem) : List NewsItem :=
  (newsItems.insertionSort fun a b => recordLe (itemKey a) (itemKey b)).filter
    fun item => item.providerSymbols ≠ []

/-- The evidence of one item. -/
def itemEvidence (item : NewsItem) : ExternalIntelligenceEvidence where
  featureName := "news_relevance.matched"
  observedValue := .matched (Matched symbol item)
  referenceValue := some symbol.val
  quality := classifyQuality item.publishedAt analysisTime config.stalenessThreshold
  sourceTimestamp := item.publishedAt
  sourceProvider := item.provider
  sourceRecordId := item.providerItemId
  sourceReceivedAt := item.receivedAt
  provenance := "app.news:" ++ item.provider

/-- The versions of the items that match and are recent. -/
def matchedRecentKeys (items : List NewsItem) : List (String × String × Timestamp) :=
  (items.filter fun item =>
    Matched symbol item ∧ analysisTime - item.publishedAt ≤ config.recencyWindow).map itemKey

/-- The version of the news item that a sentiment is about. -/
def sourceKey (obs : NewsSentimentObservation) : String × String × Timestamp :=
  (obs.sourceProvider, obs.sourceProviderItemId, obs.sourceReceivedAt)

/-- The scores of the sentiments about those versions, in canonical order. -/
def eligibleSentiment (keys : List (String × String × Timestamp))
    (sentiment : List NewsSentimentObservation) : List (NewsSentimentObservation × ℚ) :=
  ((sentiment.filter fun obs => sourceKey obs ∈ keys).filterMap fun obs =>
      obs.sentimentScore.map fun score => (obs, score)).insertionSort fun a b =>
    recordLe (a.1.provider, a.1.sourceProviderItemId, a.1.receivedAt)
      (b.1.provider, b.1.sourceProviderItemId, b.1.receivedAt)

/-- The providers of some sentiments, in order. -/
def sentimentProviders (eligible : List (NewsSentimentObservation × ℚ)) : List String :=
  ((eligible.map fun member => (member.1.provider : String)).dedup).insertionSort (· ≤ ·)

/-- The evidence of one score. -/
def scoreEvidence (member : NewsSentimentObservation × ℚ) : ExternalIntelligenceEvidence where
  featureName := "news_sentiment_observation.sentiment_score"
  observedValue := .score member.2
  referenceValue := none
  quality := classifyQuality member.1.publishedAt analysisTime config.stalenessThreshold
  sourceTimestamp := member.1.publishedAt
  sourceProvider := member.1.provider
  sourceRecordId := member.1.sourceProviderItemId
  sourceReceivedAt := member.1.receivedAt
  provenance := "app.news_intel:" ++ member.1.provider

/-- The sign of a provider: the one sign of its scores, or mixed. -/
def providerSign (scores : List ℚ) : SentimentSign :=
  match (scores.map signCategory).dedup with
  | [sign] => sign
  | _ => .mixed

/-- The tally of the providers' signs. -/
def agreementOf (signs : List SentimentSign) : SentimentAgreementVerdict :=
  let unambiguous := signs.filter (· ≠ .mixed)
  if 2 ≤ unambiguous.length ∧ unambiguous.dedup.length = 1 then .allAgree
  else if 2 ≤ unambiguous.length then .mixed else .insufficientData

/-- What one provider contributes: its sign, its observation and its evidence. -/
structure ProviderReading where
  sign : SentimentSign
  observation : ExternalIntelligenceAnalysisObservation
  evidence : List ExternalIntelligenceEvidence

/-- The readings of the providers in order; evidence is numbered from `start`. -/
def providerReadings (eligible : List (NewsSentimentObservation × ℚ)) :
    ℕ → List String → List ProviderReading
  | _, [] => []
  | start, provider :: providers =>
      let members := eligible.filter fun member => (member.1.provider : String) = provider
      let evidence := members.map (scoreEvidence analysisTime config)
      let sign := providerSign (members.map Prod.snd)
      { sign
        observation := {
          dimension := .perProviderSentimentSign
          value := sign.value
          quality := worseOfMany (evidence.map ExternalIntelligenceEvidence.quality)
          subject := some provider
          evidenceRefs := List.range' start evidence.length }
        evidence } ::
      providerReadings eligible (start + evidence.length) providers

/-- Whether some item whose relevance is determined matches. -/
def presenceObservation (items : List NewsItem) : List ExternalIntelligenceAnalysisObservation :=
  if items = [] then []
  else [{
    dimension := .relevantItemPresence
    value := if ∃ item ∈ items, Matched symbol item then "ITEMS_FOUND" else "NO_ITEMS"
    quality := worseOfMany (items.map fun item =>
      (itemEvidence symbol analysisTime config item).quality)
    evidenceRefs := List.range items.length }]

/-- The agreement of the providers that have scores; evidence is numbered from `start`. -/
def agreementObservation (start : ℕ) (readings : List ProviderReading) :
    List ExternalIntelligenceAnalysisObservation :=
  let evidence := readings.flatMap ProviderReading.evidence
  if readings = [] then []
  else [{
    dimension := .sentimentProviderAgreement
    value := (agreementOf (readings.map ProviderReading.sign)).value
    quality := worseOfMany (evidence.map ExternalIntelligenceEvidence.quality)
    evidenceRefs := List.range' start evidence.length }]

/-- An abstention. -/
def abstain (reason : String) : ExternalIntelligenceAnalysisResult where
  analystType := .newsSentiment
  symbol := some symbol
  analysisTime
  status := .abstained
  quality := .unavailable
  abstentionReasons := [reason]

/-- Interpretation of the news and the sentiments of one symbol. -/
def analyze (newsItems : List NewsItem) (sentiment : List NewsSentimentObservation) :
    ExternalIntelligenceAnalysisResult :=
  if newsItems = [] then
    abstain symbol analysisTime "no news items supplied for this symbol"
  else
    let items := determinedItems newsItems
    let keys := matchedRecentKeys symbol analysisTime config items
    let eligible := eligibleSentiment keys sentiment
    let readings := providerReadings analysisTime config eligible items.length
      (sentimentProviders eligible)
    let observations := presenceObservation symbol analysisTime config items ++
      readings.map ProviderReading.observation ++ agreementObservation items.length readings
    if observations = [] then
      abstain symbol analysisTime
        "no relevance-determined items and no matched sentiment for this symbol"
    else {
      analystType := .newsSentiment
      symbol := some symbol
      analysisTime
      status := .analyzed
      observations
      evidence := items.map (itemEvidence symbol analysisTime config) ++
        readings.flatMap ProviderReading.evidence
      quality := worseOfMany
        (observations.map ExternalIntelligenceAnalysisObservation.quality) }

end NewsSentimentAnalyst

/-! ## What a result reports -/

namespace ExternalIntelligenceAnalysisResult

/-- The signs reported per provider. -/
def providerSigns (result : ExternalIntelligenceAnalysisResult) : List String :=
  (result.observations.filter fun observation =>
    observation.dimension = .perProviderSentimentSign).map
      ExternalIntelligenceAnalysisObservation.value

/-- The reported agreement of the providers. -/
def agreement (result : ExternalIntelligenceAnalysisResult) : Option String :=
  (result.observations.find? fun observation =>
    observation.dimension = .sentimentProviderAgreement).map
      ExternalIntelligenceAnalysisObservation.value

/-- The agreement is the tally of the signs. -/
def Tallied (result : ExternalIntelligenceAnalysisResult) : Prop :=
  ∃ signs : List SentimentSign, result.providerSigns = signs.map SentimentSign.value ∧
    result.agreement =
      if signs = [] then none else some (NewsSentimentAnalyst.agreementOf signs).value

end ExternalIntelligenceAnalysisResult

namespace NewsSentimentAnalyst

open ExternalIntelligenceAnalysisResult

variable {symbol : Symbol} {analysisTime : Timestamp} {config : NewsSentimentAnalystConfig}
  {newsItems : List NewsItem} {sentiment : List NewsSentimentObservation}

theorem providerReadings_observation {eligible : List (NewsSentimentObservation × ℚ)} {start : ℕ}
    {providers : List String} {reading : ProviderReading}
    (h : reading ∈ providerReadings analysisTime config eligible start providers) :
    reading.observation.dimension = .perProviderSentimentSign ∧
      reading.observation.value = reading.sign.value := by
  induction providers generalizing start with
  | nil => cases h
  | cons provider providers ih =>
      rcases List.mem_cons.mp h with rfl | h
      · exact ⟨rfl, rfl⟩
      · exact ih h

theorem analyze_analystType :
    (analyze symbol analysisTime config newsItems sentiment).analystType = .newsSentiment := by
  unfold analyze
  split
  · rfl
  · dsimp only
    split <;> rfl

theorem abstain_tallied (reason : String) : (abstain symbol analysisTime reason).Tallied :=
  ⟨[], rfl, rfl⟩

/-- Presence, readings and agreement, in this order, report a tally. -/
theorem tallied_of_observations {result : ExternalIntelligenceAnalysisResult}
    {items : List NewsItem} {start : ℕ} {readings : List ProviderReading}
    (hobs : result.observations = presenceObservation symbol analysisTime config items ++
      readings.map ProviderReading.observation ++ agreementObservation start readings)
    (hreadings : ∀ r ∈ readings, r.observation.dimension = .perProviderSentimentSign ∧
      r.observation.value = r.sign.value) : result.Tallied := by
  have hpresence : ∀ o ∈ presenceObservation symbol analysisTime config items,
      o.dimension = .relevantItemPresence := by
    intro o ho
    unfold presenceObservation at ho
    split at ho
    · cases ho
    · rw [List.mem_singleton.mp ho]
  have hnone : ∀ o ∈ readings.map ProviderReading.observation,
      o.dimension = .perProviderSentimentSign := by
    intro o ho
    obtain ⟨r, hr, rfl⟩ := List.mem_map.mp ho
    exact (hreadings r hr).1
  refine ⟨readings.map ProviderReading.sign, ?_, ?_⟩
  · have hagreed : (agreementObservation start readings).filter
        (fun o => o.dimension = .perProviderSentimentSign) = [] := by
      unfold agreementObservation
      split <;> rfl
    rw [providerSigns, hobs, List.filter_append, List.filter_append, hagreed, List.append_nil,
      List.filter_eq_nil_iff.mpr fun o ho => by simp [hpresence o ho], List.nil_append,
      List.filter_eq_self.mpr fun o ho => by simp [hnone o ho], List.map_map, List.map_map]
    exact List.map_congr_left fun r hr => (hreadings r hr).2
  · rw [agreement, hobs, List.find?_append, List.find?_append,
      List.find?_eq_none.mpr fun o ho => by simp [hpresence o ho],
      List.find?_eq_none.mpr fun o ho => by simp [hnone o ho]]
    unfold agreementObservation
    by_cases h : readings = []
    · simp [h]
    · simp [h]

/-- **The agreement that the analyst reports is the tally of the signs it reports.** -/
theorem analyze_tallied :
    (analyze symbol analysisTime config newsItems sentiment).Tallied := by
  unfold analyze
  by_cases hnews : newsItems = []
  · rw [if_pos hnews]
    exact abstain_tallied _
  · rw [if_neg hnews]
    dsimp only
    split
    · exact abstain_tallied _
    · exact tallied_of_observations rfl fun _ => providerReadings_observation

end NewsSentimentAnalyst

end TradingAdvisor
