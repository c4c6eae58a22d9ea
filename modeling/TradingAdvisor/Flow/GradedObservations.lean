import TradingAdvisor.Flow.CompleteFeatures
import TradingAdvisor.Flow.FlowAnalysts

/-!
# What a flow analysis rests on

Every observation of a flow analyst cites evidence of the analysis and is graded as the worst of
what it cites; the analysis is graded as the worst of its observations. An analyst analyzes exactly
the blocks that hold something usable for it.

* `FlowDraft.Sound` — every observation of a draft is backed by its evidence;
* `Usable` — what an analyst can use of the blocks;
* `FlowAnalysisResult.Graded` — a result that its evidence bears out;
* **`flow_analysts_graded`**: of any snapshot every analyst makes such a result.
-/

namespace TradingAdvisor

open Checks VersionedStore Citations Citations.Citing

/-- How flow observations cite evidence and are graded. -/
def flowCiting : Citing FlowEvidence FlowAnalysisObservation FeatureQuality where
  gradeOf := FlowEvidence.quality
  refs := FlowAnalysisObservation.evidenceRefs
  grade := FlowAnalysisObservation.quality
  join := worseOfMany

@[simp] theorem worseOfMany_singleton (q : FeatureQuality) : worseOfMany [q] = q := by
  cases q <;> decide

/-! ## Folds -/

section Folds

variable {σ ε ω : Type} {op : σ → ε → σ} {items : List ε} {s : σ}

theorem foldl_invariant (P : σ → Prop) (hs : P s) (hop : ∀ s, P s → ∀ e ∈ items, P (op s e)) :
    P (items.foldl op s) := by
  induction items generalizing s with
  | nil => exact hs
  | cons e items ih =>
      exact ih (hop s hs e List.mem_cons_self) fun s hs e he =>
        hop s hs e (List.mem_cons_of_mem _ he)

theorem foldl_collects (collected : σ → Prop) (contributes : ε → Prop)
    (hop : ∀ s e, collected (op s e) ↔ collected s ∨ contributes e) :
    collected (items.foldl op s) ↔ collected s ∨ ∃ e ∈ items, contributes e := by
  induction items generalizing s with
  | nil => simp
  | cons e items ih =>
      rw [List.foldl_cons, ih, hop, List.exists_mem_cons_iff, or_assoc]

end Folds

/-! ## Drafts -/

section Drafts

variable (snapshot : FlowFeatureSnapshot FlowBlocks)

/-- Evidence about the snapshot. -/
def FlowEvidence.About (evidence : FlowEvidence) : Prop :=
  ∃ domain, evidence.provenance = provenanceLabel snapshot domain

/-- Every observation of the draft says something and is backed by the evidence of the draft, which
is about the snapshot. -/
structure FlowDraft.Sound (draft : FlowDraft) : Prop where
  grounded : flowCiting.Grounded draft.evidence draft.observations
  values : ∀ observation ∈ draft.observations, observation.value ≠ ""
  about : ∀ evidence ∈ draft.evidence, evidence.About snapshot

variable {snapshot} {draft : FlowDraft} {evidence : FlowEvidence}

theorem about_makeFlowEvidence {domain featureName : String} {window : Option String} {value : ℚ}
    {quality : FeatureQuality} :
    (makeFlowEvidence snapshot domain featureName window value quality).About snapshot :=
  ⟨domain, rfl⟩

theorem FlowDraft.cite_evidence {dimension : AnalysisDimension} {value : String}
    {window subject : Option String} : (draft.cite evidence dimension value window
      subject).evidence = draft.evidence ++ [evidence] := rfl

theorem FlowDraft.sound_nil : FlowDraft.Sound snapshot {} :=
  ⟨fun _ h => absurd h List.not_mem_nil, fun _ h => absurd h List.not_mem_nil,
    fun _ h => absurd h List.not_mem_nil⟩

theorem FlowDraft.Sound.note (h : draft.Sound snapshot) (habout : evidence.About snapshot) :
    (draft.note evidence).Sound snapshot where
  grounded := h.grounded.append
  values := h.values
  about := by
    intro e he
    rcases List.mem_append.mp he with he | he
    · exact h.about e he
    · exact List.mem_singleton.mp he ▸ habout

/-- An observation of the evidence added with it. -/
theorem FlowDraft.Sound.add {observation : FlowAnalysisObservation} (h : draft.Sound snapshot)
    (added : List FlowEvidence) (hne : added ≠ []) (habout : ∀ e ∈ added, e.About snapshot)
    (hvalue : observation.value ≠ "")
    (hrefs : observation.evidenceRefs = List.range' draft.evidence.length added.length)
    (hquality : observation.quality = worseOfMany (added.map FlowEvidence.quality)) :
    FlowDraft.Sound snapshot
      { evidence := draft.evidence ++ added
        observations := draft.observations ++ [observation] } where
  grounded := h.grounded.append.snoc (backed_added hne hrefs hquality)
  values := by
    intro o ho
    rcases List.mem_append.mp ho with ho | ho
    · exact h.values o ho
    · exact List.mem_singleton.mp ho ▸ hvalue
  about := by
    intro e he
    rcases List.mem_append.mp he with he | he
    · exact h.about e he
    · exact habout e he

theorem FlowDraft.Sound.cite {dimension : AnalysisDimension} {value : String}
    {window subject : Option String} (h : draft.Sound snapshot) (habout : evidence.About snapshot)
    (hvalue : value ≠ "") :
    (draft.cite evidence dimension value window subject).Sound snapshot := by
  refine h.add [evidence] (List.cons_ne_nil _ _) ?_ hvalue rfl ?_
  · intro e he
    exact List.mem_singleton.mp he ▸ habout
  · exact (worseOfMany_singleton _).symm

/-- An observation about evidence noted before. -/
theorem FlowDraft.Sound.observe (h : draft.Sound snapshot) (dimension : AnalysisDimension)
    {value : String} (hvalue : value ≠ "") (notes : List (ℕ × FeatureQuality)) (hne : notes ≠ [])
    (hnotes : ∀ note ∈ notes, flowCiting.Noted draft.evidence note.1 note.2) :
    (draft.observe dimension value (worseOfMany (notes.map Prod.snd))
      (notes.map Prod.fst)).Sound snapshot where
  grounded := h.grounded.snoc (backed_of_noted hne hnotes rfl rfl)
  values := by
    intro o ho
    rcases List.mem_append.mp ho with ho | ho
    · exact h.values o ho
    · exact List.mem_singleton.mp ho ▸ hvalue
  about := h.about

/-- The evidence of a note is there and has its quality. -/
def Noted.Backed {α : Type} (draft : FlowDraft) (note : Noted α) : Prop :=
  flowCiting.Noted draft.evidence note.ref note.quality

theorem category_ne_empty {signs : FlowSigns} (h : signs.positive ≠ "" ∧ signs.negative ≠ "" ∧
    signs.zero ≠ "") (value : ℚ) : signs.category value ≠ "" := by
  unfold FlowSigns.category
  split_ifs
  · exact h.1
  · exact h.2.1
  · exact h.2.2

theorem ordinalTrend_ne_empty (shortest longest : ℚ) : ordinalTrend shortest longest ≠ "" := by
  unfold ordinalTrend
  split_ifs <;> decide

theorem agreementVerdict_ne_empty (verdict : AgreementVerdict) : verdict.value ≠ "" := by
  cases verdict <;> decide

theorem relationship_ne_empty (r : PriceFlowRelationship) : r.value ≠ "" := by
  cases r <;> decide

theorem mem_of_shortestAndLongest {α : Type} {notes : List (Noted α)} {shortest longest : Noted α}
    (h : shortestAndLongest notes = some (shortest, longest)) :
    shortest ∈ notes ∧ longest ∈ notes := by
  unfold shortestAndLongest at h
  dsimp only at h
  have hperm := List.perm_insertionSort
    (fun a b : Noted α => (a.window.duration : ℤ) ≤ (b.window.duration : ℤ)) notes
  generalize notes.insertionSort
    (fun a b : Noted α => (a.window.duration : ℤ) ≤ (b.window.duration : ℤ)) = ordered at h hperm
  match ordered, h with
  | first :: second :: rest, h =>
      have hlast : (first :: second :: rest).getLast? =
          some ((first :: second :: rest).getLast (List.cons_ne_nil _ _)) :=
        List.getLast?_eq_some_getLast _
      rw [hlast] at h
      cases h
      exact ⟨hperm.mem_iff.mp List.mem_cons_self, hperm.mem_iff.mp (List.getLast_mem _)⟩

theorem FlowDraft.Sound.magnitudeTrend {notes : List (Noted ℚ)} (h : draft.Sound snapshot)
    (hnotes : ∀ note ∈ notes, note.Backed draft) :
    (draft.magnitudeTrend notes).Sound snapshot := by
  unfold FlowDraft.magnitudeTrend
  cases hpair : shortestAndLongest notes with
  | some pair =>
      obtain ⟨shortest, longest⟩ := pair
      obtain ⟨hshort, hlong⟩ := mem_of_shortestAndLongest hpair
      refine h.observe .magnitudeTrend (ordinalTrend_ne_empty _ _)
        [(shortest.ref, shortest.quality), (longest.ref, longest.quality)]
        (List.cons_ne_nil _ _) ?_
      intro note hnote
      rcases List.mem_cons.mp hnote with rfl | hnote
      · exact hnotes shortest hshort
      · exact List.mem_singleton.mp hnote ▸ hnotes longest hlong
  | none =>
      cases notes with
      | nil => exact h
      | cons only rest =>
          have hvalue : "INSUFFICIENT_DATA" ≠ "" := by decide
          have honly := h.observe .magnitudeTrend hvalue [(only.ref, only.quality)]
            (List.cons_ne_nil _ _) (by
              intro note hnote
              exact List.mem_singleton.mp hnote ▸ hnotes only List.mem_cons_self)
          rwa [List.map_singleton, worseOfMany_singleton] at honly

theorem FlowDraft.Sound.agreement {dimension : AnalysisDimension} {notes : List (Noted String)}
    (h : draft.Sound snapshot) (hnotes : ∀ note ∈ notes, note.Backed draft) :
    (draft.agreement dimension notes).Sound snapshot := by
  unfold FlowDraft.agreement
  split_ifs with hnil
  · exact h
  · have hagree := h.observe dimension
      (agreementVerdict_ne_empty (tally (notes.map Noted.value)))
      (notes.map fun note => (note.ref, note.quality)) (by simpa using hnil) (by
        intro note hnote
        obtain ⟨note, hmem, rfl⟩ := List.mem_map.mp hnote
        exact hnotes note hmem)
    rwa [List.map_map, List.map_map] at hagree

theorem agreement_evidence {dimension : AnalysisDimension} {notes : List (Noted String)} :
    (draft.agreement dimension notes).evidence = draft.evidence := by
  unfold FlowDraft.agreement
  split_ifs <;> rfl

theorem agreement_observes {dimension : AnalysisDimension} {notes : List (Noted String)} :
    (draft.agreement dimension notes).observations ≠ [] ↔
      draft.observations ≠ [] ∨ notes ≠ [] := by
  unfold FlowDraft.agreement
  split_ifs with hnil
  · simp [hnil]
  · simp [FlowDraft.observe, hnil]

theorem magnitudeTrend_observes {notes : List (Noted ℚ)} :
    (draft.magnitudeTrend notes).observations ≠ [] ↔ draft.observations ≠ [] ∨ notes ≠ [] := by
  unfold FlowDraft.magnitudeTrend
  cases hpair : shortestAndLongest notes with
  | some pair =>
      have hne : notes ≠ [] := List.ne_nil_of_mem (mem_of_shortestAndLongest hpair).1
      simp [FlowDraft.observe, hne]
  | none => cases notes <;> simp [FlowDraft.observe]

end Drafts

/-! ## The analysts -/

section Analysts

variable (snapshot : FlowFeatureSnapshot FlowBlocks)

namespace TakerFlowAnalyst

/-- What holds of the notes after each window. -/
structure Notes.Sound (notes : Notes) : Prop where
  draft : notes.draft.Sound snapshot
  pressures : ∀ note ∈ notes.pressures, note.Backed notes.draft
  rates : ∀ note ∈ notes.rates, note.Backed notes.draft

/-- Something has been noted. -/
def Notes.Something (notes : Notes) : Prop :=
  (notes.draft.observations ≠ [] ∨ notes.pressures ≠ []) ∨ notes.rates ≠ []

variable {snapshot}

theorem Notes.Sound.window {notes : Notes} (h : notes.Sound snapshot)
    (entry : String × TakerFlowWindowFeatures) : (window snapshot notes entry).Sound snapshot := by
  obtain ⟨label, features⟩ := entry
  unfold TakerFlowAnalyst.window
  dsimp only
  split_ifs
  · exact h
  · constructor
    · exact (h.draft.cite about_makeFlowEvidence
        (category_ne_empty (by decide) _)).note about_makeFlowEvidence
    · intro note hnote
      rcases List.mem_append.mp hnote with hnote | hnote
      · exact (h.pressures note hnote).append.append
      · obtain rfl := List.mem_singleton.mp hnote
        exact (noted_added _).append
    · intro note hnote
      rcases List.mem_append.mp hnote with hnote | hnote
      · exact (h.rates note hnote).append.append
      · obtain rfl := List.mem_singleton.mp hnote
        exact noted_added _

theorem window_something (notes : Notes) (entry : String × TakerFlowWindowFeatures) :
    (window snapshot notes entry).Something ↔
      notes.Something ∨ entry.2.status.quality ≠ .unavailable := by
  unfold window Notes.Something
  dsimp only
  split_ifs with hquality
  · simp [hquality]
  · simp [FlowDraft.note, FlowDraft.cite, hquality]

theorem draft_sound : (draft snapshot).Sound snapshot := by
  have hnotes : Notes.Sound snapshot
      (snapshot.blocks.takerFlow.entries.foldl (window snapshot) {}) :=
    foldl_invariant _ ⟨FlowDraft.sound_nil, fun _ h => absurd h List.not_mem_nil,
      fun _ h => absurd h List.not_mem_nil⟩ fun _ h entry _ => h.window entry
  refine (hnotes.draft.agreement hnotes.pressures).magnitudeTrend fun note hnote => ?_
  unfold Noted.Backed
  rw [agreement_evidence]
  exact hnotes.rates note hnote

theorem draft_observes : (draft snapshot).observations ≠ [] ↔
    ∃ entry ∈ snapshot.blocks.takerFlow.entries, entry.2.status.quality ≠ .unavailable := by
  unfold draft
  dsimp only
  rw [magnitudeTrend_observes, agreement_observes]
  refine (foldl_collects Notes.Something _ window_something).trans ?_
  simp [Notes.Something]

end TakerFlowAnalyst

namespace LiquidationAnalyst

variable {snapshot}

theorem liquidationActivity_ne_empty (count : ℕ) : liquidationActivity count ≠ "" := by
  unfold liquidationActivity
  split_ifs <;> decide

theorem window_sound {draft : FlowDraft} (h : draft.Sound snapshot)
    (entry : String × LiquidationWindowFeatures) : (window snapshot draft entry).Sound snapshot := by
  obtain ⟨label, features⟩ := entry
  unfold window
  dsimp only
  split_ifs
  · exact h
  · exact (h.cite about_makeFlowEvidence (category_ne_empty (by decide) _)).cite
      about_makeFlowEvidence (liquidationActivity_ne_empty _)

theorem window_observes (draft : FlowDraft) (entry : String × LiquidationWindowFeatures) :
    (window snapshot draft entry).observations ≠ [] ↔
      draft.observations ≠ [] ∨ entry.2.status.quality ≠ .unavailable := by
  unfold window
  dsimp only
  split_ifs with hquality
  · simp [hquality]
  · simp [FlowDraft.cite, hquality]

theorem draft_sound : (draft snapshot).Sound snapshot :=
  foldl_invariant _ FlowDraft.sound_nil fun _ h entry _ => window_sound h entry

theorem draft_observes : (draft snapshot).observations ≠ [] ↔
    ∃ entry ∈ snapshot.blocks.liquidation.entries, entry.2.status.quality ≠ .unavailable := by
  refine (foldl_collects (fun draft : FlowDraft => draft.observations ≠ []) _
    window_observes).trans ?_
  simp

end LiquidationAnalyst

namespace OrderBookLiquidityAnalyst

/-- What holds of the notes after each band. -/
structure Notes.Sound (notes : Notes) : Prop where
  draft : notes.draft.Sound snapshot
  pressures : ∀ note ∈ notes.pressures,
    flowCiting.Noted notes.draft.evidence note.2.1 note.2.2

/-- Something has been noted. -/
def Notes.Something (notes : Notes) : Prop :=
  notes.draft.observations ≠ [] ∨ notes.pressures ≠ []

/-- A band says something. -/
def UsableBand (features : DepthBandFeatures) : Prop :=
  features.status.quality ≠ .unavailable ∧ (features.depthImbalance.isSome ∨
    features.bidDepthChange.entries ≠ [] ∨ features.askDepthChange.entries ≠ [])

variable {snapshot}

/-- The depth changes of a side only add to a draft. -/
theorem side_sound (quality : FeatureQuality) (bandLabel sideName : String)
    (changes : Dict String ℚ) {draft : FlowDraft} (h : draft.Sound snapshot) :
    (side snapshot quality bandLabel sideName changes draft).Sound snapshot ∧
      ∃ more, (side snapshot quality bandLabel sideName changes draft).evidence =
        draft.evidence ++ more := by
  refine foldl_invariant (fun d : FlowDraft => d.Sound snapshot ∧ ∃ more, d.evidence =
    draft.evidence ++ more) ⟨h, [], (List.append_nil _).symm⟩ fun d hd change _ => ?_
  obtain ⟨hsound, more, hmore⟩ := hd
  refine ⟨hsound.cite about_makeFlowEvidence (category_ne_empty (by decide) _), ?_⟩
  rw [FlowDraft.cite_evidence, hmore]
  exact ⟨_, List.append_assoc ..⟩

theorem side_observes {quality : FeatureQuality} {bandLabel sideName : String}
    {changes : Dict String ℚ} {draft : FlowDraft} :
    (side snapshot quality bandLabel sideName changes draft).observations ≠ [] ↔
      draft.observations ≠ [] ∨ changes.entries ≠ [] := by
  unfold side
  rw [foldl_collects (fun d : FlowDraft => d.observations ≠ []) (fun _ => True)
    fun _ _ => by simp [FlowDraft.cite]]
  simp [List.eq_nil_iff_forall_not_mem]

theorem Notes.Sound.extend {notes : Notes} (h : notes.Sound snapshot) {draft : FlowDraft}
    (hdraft : draft.Sound snapshot) {more : List FlowEvidence}
    (hmore : draft.evidence = notes.draft.evidence ++ more) :
    Notes.Sound snapshot { notes with draft } := by
  refine ⟨hdraft, fun note hnote => ?_⟩
  show flowCiting.Noted draft.evidence _ _
  rw [hmore]
  exact (h.pressures note hnote).append

theorem Notes.Sound.sides {notes : Notes} (h : notes.Sound snapshot) {quality : FeatureQuality}
    {label : String} {bid ask : Dict String ℚ} : Notes.Sound snapshot { notes with
      draft := side snapshot quality label "ask" ask
        (side snapshot quality label "bid" bid notes.draft) } := by
  obtain ⟨hbid, more, hmore⟩ := side_sound quality label "bid" bid h.draft
  obtain ⟨hask, more', hmore'⟩ := side_sound quality label "ask" ask hbid
  exact h.extend hask (hmore'.trans (by rw [hmore, List.append_assoc]))

theorem Notes.Sound.band {notes : Notes} (h : notes.Sound snapshot) (label : String)
    (features : DepthBandFeatures) : (band snapshot notes label features).Sound snapshot := by
  unfold OrderBookLiquidityAnalyst.band
  dsimp only
  split_ifs
  · exact h
  · refine Notes.Sound.sides ?_
    cases features.depthImbalance with
    | none => exact h
    | some imbalance =>
        refine ⟨h.draft.cite about_makeFlowEvidence (category_ne_empty (by decide) _), ?_⟩
        intro note hnote
        rcases List.mem_append.mp hnote with hnote | hnote
        · exact (h.pressures note hnote).append
        · obtain rfl := List.mem_singleton.mp hnote
          exact noted_added _

theorem band_something (notes : Notes) (entry : Σ _ : String, DepthBandFeatures) :
    (band snapshot notes entry.1 entry.2).Something ↔
      notes.Something ∨ UsableBand entry.2 := by
  unfold band Notes.Something UsableBand
  dsimp only
  split_ifs with hquality
  · simp [hquality]
  · dsimp only
    rw [side_observes, side_observes]
    cases entry.2.depthImbalance with
    | none => simp [hquality]; tauto
    | some imbalance => simp [hquality, FlowDraft.cite]

/-- The draft of the bands of a usable book. -/
theorem draft_of_usable {orderBook : OrderBookFeatures} (hbook : snapshot.blocks.orderBook =
    some orderBook) (hquality : orderBook.status.quality ≠ .unavailable) :
    (draft snapshot).Sound snapshot ∧ ((draft snapshot).observations ≠ [] ↔
      ∃ entry ∈ orderBook.bands.entries, UsableBand entry.2) := by
  have htop : FlowDraft.Sound snapshot ((topOfBook orderBook).foldl (fun draft entry =>
      draft.note (makeFlowEvidence snapshot "order_book" ("order_book." ++ entry.1) none
        entry.2 orderBook.status.quality)) ({} : FlowDraft)) ∧
      ((topOfBook orderBook).foldl (fun draft entry =>
        draft.note (makeFlowEvidence snapshot "order_book" ("order_book." ++ entry.1) none
          entry.2 orderBook.status.quality)) ({} : FlowDraft)).observations = [] :=
    foldl_invariant (fun d : FlowDraft => d.Sound snapshot ∧ d.observations = [])
      ⟨FlowDraft.sound_nil, rfl⟩ fun _ h _ _ => ⟨h.1.note about_makeFlowEvidence, h.2⟩
  unfold draft
  rw [hbook]
  dsimp only
  rw [if_neg hquality]
  generalize (topOfBook orderBook).foldl (fun draft entry =>
    draft.note (makeFlowEvidence snapshot "order_book" ("order_book." ++ entry.1) none
      entry.2 orderBook.status.quality)) ({} : FlowDraft) = top at htop
  have hnotes : Notes.Sound snapshot (orderBook.bands.entries.reverse.foldl
      (fun notes entry => band snapshot notes entry.1 entry.2) { draft := top }) :=
    foldl_invariant _ ⟨htop.1, fun _ h => absurd h List.not_mem_nil⟩ fun _ h entry _ =>
      h.band entry.1 entry.2
  have hsomething : Notes.Something (orderBook.bands.entries.reverse.foldl
      (fun notes entry => band snapshot notes entry.1 entry.2) { draft := top }) ↔
        ∃ entry ∈ orderBook.bands.entries, UsableBand entry.2 := by
    refine (foldl_collects Notes.Something _ band_something).trans ?_
    simp [Notes.Something, htop.2]
  rw [← hsomething]
  generalize orderBook.bands.entries.reverse.foldl
    (fun notes entry => band snapshot notes entry.1 entry.2) { draft := top } = notes at hnotes
  split_ifs with hnil
  · exact ⟨hnotes.draft, by simp [Notes.Something, hnil]⟩
  · constructor
    · have hagree := hnotes.draft.observe .crossBandAgreement
        (agreementVerdict_ne_empty (tally (notes.pressures.map Prod.fst)))
        (notes.pressures.map fun note => note.2) (by simpa using hnil) (by
          intro note hnote
          obtain ⟨note, hmem, rfl⟩ := List.mem_map.mp hnote
          exact hnotes.pressures note hmem)
      rwa [List.map_map, List.map_map] at hagree
    · simp [Notes.Something, FlowDraft.observe, hnil]

end OrderBookLiquidityAnalyst

namespace OpenInterestAnalyst

/-- What holds of the notes after each window. -/
structure Notes.Sound (notes : Notes) : Prop where
  draft : notes.draft.Sound snapshot
  trends : ∀ note ∈ notes.trends, note.Backed notes.draft

/-- Something has been noted. -/
def Notes.Something (notes : Notes) : Prop :=
  notes.draft.observations ≠ [] ∨ notes.trends ≠ []

/-- A window says something. -/
def UsableWindow (features : OpenInterestWindowFeatures) : Prop :=
  features.status.quality ≠ .unavailable ∧
    (features.percentChange.isSome ∨ features.oiVelocity.isSome)

variable {snapshot}

theorem Notes.Sound.trend {notes : Notes} (h : notes.Sound snapshot) (label : String)
    (features : OpenInterestWindowFeatures) (value : ℚ) :
    (trend snapshot notes label features value).Sound snapshot := by
  refine ⟨h.draft.cite about_makeFlowEvidence (category_ne_empty (by decide) _), ?_⟩
  intro note hnote
  rcases List.mem_append.mp hnote with hnote | hnote
  · exact (h.trends note hnote).append
  · obtain rfl := List.mem_singleton.mp hnote
    exact noted_added _

theorem Notes.Sound.velocity {notes : Notes} (h : notes.Sound snapshot) (label : String)
    (quality : FeatureQuality) (value : ℚ) : Notes.Sound snapshot { notes with
      draft := velocity snapshot notes.draft label quality value } where
  draft := h.draft.cite about_makeFlowEvidence (category_ne_empty (by decide) _)
  trends note hnote := (h.trends note hnote).append

theorem Notes.Sound.window {notes : Notes} (h : notes.Sound snapshot)
    (entry : String × OpenInterestWindowFeatures) :
    (window snapshot notes entry).Sound snapshot := by
  obtain ⟨label, features⟩ := entry
  unfold OpenInterestAnalyst.window
  dsimp only
  split_ifs
  · exact h
  · have htrend : Notes.Sound snapshot
        (features.percentChange.elim notes
          (OpenInterestAnalyst.trend snapshot notes label features)) := by
      cases features.percentChange with
      | none => exact h
      | some value => exact h.trend label features value
    generalize features.percentChange.elim notes
      (OpenInterestAnalyst.trend snapshot notes label features) = notes' at htrend ⊢
    cases features.oiVelocity with
    | none => exact htrend
    | some value => exact htrend.velocity label _ value

theorem window_something (notes : Notes) (entry : String × OpenInterestWindowFeatures) :
    (window snapshot notes entry).Something ↔ notes.Something ∨ UsableWindow entry.2 := by
  unfold window Notes.Something UsableWindow
  dsimp only
  split_ifs with hquality
  · simp [hquality]
  · cases entry.2.percentChange <;> cases entry.2.oiVelocity <;>
      simp [hquality, trend, velocity, FlowDraft.cite]

theorem draft_of_usable {openInterest : OpenInterestFeatures}
    (hblock : snapshot.blocks.openInterest = some openInterest)
    (hquality : openInterest.status.quality ≠ .unavailable) :
    (draft snapshot).Sound snapshot ∧ ((draft snapshot).observations ≠ [] ↔
      ∃ entry ∈ openInterest.windows.entries, UsableWindow entry.2) := by
  have hnotes : Notes.Sound snapshot (openInterest.windows.entries.foldl (window snapshot) {}) :=
    foldl_invariant _ ⟨FlowDraft.sound_nil, fun _ h => absurd h List.not_mem_nil⟩
      fun _ h entry _ => h.window entry
  have hsomething : Notes.Something (openInterest.windows.entries.foldl (window snapshot) {}) ↔
      ∃ entry ∈ openInterest.windows.entries, UsableWindow entry.2 := by
    refine (foldl_collects Notes.Something _ window_something).trans ?_
    simp [Notes.Something]
  unfold draft
  rw [hblock]
  dsimp only
  rw [if_neg hquality, ← hsomething]
  generalize openInterest.windows.entries.foldl (window snapshot) {} = notes at hnotes
  have hbacked {β : Type} (f : String × ℚ → β) : ∀ note ∈ notes.trends.map fun note =>
      ({ note with value := f note.value } : Noted β), note.Backed notes.draft := by
    intro note hnote
    obtain ⟨note, hmem, rfl⟩ := List.mem_map.mp hnote
    exact hnotes.trends note hmem
  constructor
  · refine (hnotes.draft.agreement (hbacked Prod.fst)).magnitudeTrend fun note hnote => ?_
    unfold Noted.Backed
    rw [agreement_evidence]
    exact hbacked Prod.snd note hnote
  · rw [magnitudeTrend_observes, agreement_observes, Notes.Something]
    simp

end OpenInterestAnalyst

namespace FundingAnalyst

variable {snapshot}

theorem sign_sound {draft : FlowDraft} (h : draft.Sound snapshot) {quality : FeatureQuality}
    {featureName : String} {window : Option String} {dimension : AnalysisDimension}
    {signs : FlowSigns} (hsigns : signs.positive ≠ "" ∧ signs.negative ≠ "" ∧ signs.zero ≠ "")
    (value : Option ℚ) :
    (sign snapshot draft quality featureName window dimension signs value).Sound snapshot := by
  cases value with
  | none => exact h
  | some value => exact h.cite about_makeFlowEvidence (category_ne_empty hsigns value)

theorem sign_observes {draft : FlowDraft} {quality : FeatureQuality} {featureName : String}
    {window : Option String} {dimension : AnalysisDimension} {signs : FlowSigns}
    {value : Option ℚ} :
    (sign snapshot draft quality featureName window dimension signs value).observations ≠ [] ↔
      draft.observations ≠ [] ∨ value.isSome := by
  cases value <;> simp [sign, FlowDraft.cite]

theorem window_sound {draft : FlowDraft} (h : draft.Sound snapshot)
    (entry : String × FundingWindowFeatures) : (window snapshot draft entry).Sound snapshot := by
  obtain ⟨label, features⟩ := entry
  unfold window
  dsimp only
  split_ifs
  · exact h
  · have htrend : (sign snapshot draft features.status.quality "funding.funding_trend" (some label)
        .fundingTrend fundingTrend features.fundingTrend).Sound snapshot :=
      sign_sound h (by decide) _
    cases features.rollingStddev with
    | none => exact htrend
    | some value => exact htrend.note about_makeFlowEvidence

/-- A deviation alone is no observation. -/
theorem window_observes (draft : FlowDraft) (entry : String × FundingWindowFeatures) :
    (window snapshot draft entry).observations ≠ [] ↔ draft.observations ≠ [] ∨
      entry.2.status.quality ≠ .unavailable ∧ entry.2.fundingTrend.isSome := by
  unfold window
  dsimp only
  split_ifs with hquality
  · simp [hquality]
  · cases entry.2.rollingStddev with
    | none => simp [sign_observes, hquality]
    | some value => simp [sign_observes, hquality, FlowDraft.note]

theorem draft_of_usable {funding : FundingFeatures} (hblock : snapshot.blocks.funding =
    some funding) (hquality : funding.status.quality ≠ .unavailable) :
    (draft snapshot).Sound snapshot ∧ ((draft snapshot).observations ≠ [] ↔
      funding.latestFundingRate.isSome ∨ funding.markIndexBasisBps.isSome ∨
        ∃ entry ∈ funding.windows.entries,
          entry.2.status.quality ≠ .unavailable ∧ entry.2.fundingTrend.isSome) := by
  unfold draft
  rw [hblock]
  dsimp only
  rw [if_neg hquality]
  constructor
  · exact foldl_invariant _ (sign_sound (sign_sound FlowDraft.sound_nil (by decide) _)
      (by decide) _) fun _ h entry _ => window_sound h entry
  · refine (foldl_collects (fun draft : FlowDraft => draft.observations ≠ []) _
      window_observes).trans ?_
    rw [sign_observes, sign_observes]
    simp [or_assoc]

end FundingAnalyst

namespace PriceFlowRelationshipAnalyst

variable {snapshot}

theorem cross_sound {draft : FlowDraft} (h : draft.Sound snapshot)
    (entry : String × CrossFeatureObservation) : (cross snapshot draft entry).Sound snapshot := by
  obtain ⟨label, observation⟩ := entry
  unfold cross
  dsimp only
  split_ifs
  · exact h
  · cases observation.correlation with
    | none => exact h
    | some value => exact h.cite about_makeFlowEvidence (category_ne_empty (by decide) value)

theorem cross_observes (draft : FlowDraft) (entry : String × CrossFeatureObservation) :
    (cross snapshot draft entry).observations ≠ [] ↔ draft.observations ≠ [] ∨
      entry.2.status.quality ≠ .unavailable ∧ entry.2.correlation.isSome := by
  unfold cross
  dsimp only
  split_ifs with hquality
  · simp [hquality]
  · cases entry.2.correlation <;> simp [hquality, FlowDraft.cite]

theorem appendRelationship_sound {draft : FlowDraft} (h : draft.Sound snapshot) {label : String}
    {returnPct : ℚ} {quality : FeatureQuality} (comparison : AnalysisDimension × Leg) :
    (appendRelationship snapshot label returnPct quality draft comparison).Sound snapshot := by
  refine h.add [_, _] (List.cons_ne_nil _ _) ?_ (relationship_ne_empty _) rfl rfl
  intro e he
  rcases List.mem_cons.mp he with rfl | he
  · exact about_makeFlowEvidence
  · exact List.mem_singleton.mp he ▸ about_makeFlowEvidence

theorem price_sound {draft : FlowDraft} (h : draft.Sound snapshot)
    (entry : String × PriceContextWindowFeatures) : (price snapshot draft entry).Sound snapshot := by
  obtain ⟨label, features⟩ := entry
  unfold price
  dsimp only
  split_ifs
  · exact h
  · cases features.returnPct with
    | none => exact h
    | some returnPct =>
        exact foldl_invariant _ h fun _ h comparison _ => appendRelationship_sound h comparison

/-- A window of the price can be compared with some flow. -/
def Comparable (snapshot : FlowFeatureSnapshot FlowBlocks)
    (entry : String × PriceContextWindowFeatures) : Prop :=
  entry.2.status.quality ≠ .unavailable ∧ entry.2.returnPct.isSome ∧ legs snapshot entry.1 ≠ []

theorem price_observes (draft : FlowDraft) (entry : String × PriceContextWindowFeatures) :
    (price snapshot draft entry).observations ≠ [] ↔
      draft.observations ≠ [] ∨ Comparable snapshot entry := by
  unfold price Comparable
  dsimp only
  split_ifs with hquality
  · simp [hquality]
  · cases entry.2.returnPct with
    | none => simp
    | some returnPct =>
        refine (foldl_collects (fun draft : FlowDraft => draft.observations ≠ []) (fun _ => True)
          fun _ _ => by simp [appendRelationship]).trans ?_
        simp [hquality, List.eq_nil_iff_forall_not_mem]

theorem draft_sound : (draft snapshot).Sound snapshot :=
  foldl_invariant _ (foldl_invariant _ FlowDraft.sound_nil fun _ h entry _ => cross_sound h entry)
    fun _ h entry _ => price_sound h entry

theorem draft_observes : (draft snapshot).observations ≠ [] ↔
    (∃ entry ∈ snapshot.blocks.crossFeatures.entries,
      entry.2.status.quality ≠ .unavailable ∧ entry.2.correlation.isSome) ∨
    ∃ entry ∈ snapshot.blocks.priceContext.entries, Comparable snapshot entry := by
  refine (foldl_collects (fun draft : FlowDraft => draft.observations ≠ []) _
    price_observes).trans (or_congr_left ?_)
  refine (foldl_collects (fun draft : FlowDraft => draft.observations ≠ []) _
    cross_observes).trans ?_
  simp

end PriceFlowRelationshipAnalyst

/-! ## Results -/

/-- What an analyst drafts about the snapshot. -/
def FlowAnalystType.draft : FlowAnalystType → FlowDraft
  | .takerFlow => TakerFlowAnalyst.draft snapshot
  | .liquidation => LiquidationAnalyst.draft snapshot
  | .orderBookLiquidity => OrderBookLiquidityAnalyst.draft snapshot
  | .openInterest => OpenInterestAnalyst.draft snapshot
  | .funding => FundingAnalyst.draft snapshot
  | .priceFlowRelationship => PriceFlowRelationshipAnalyst.draft snapshot

/-- The blocks of the snapshot hold something an analyst can use. -/
def Usable (snapshot : FlowFeatureSnapshot FlowBlocks) : FlowAnalystType → Prop
  | .takerFlow =>
      ∃ entry ∈ snapshot.blocks.takerFlow.entries, entry.2.status.quality ≠ .unavailable
  | .liquidation =>
      ∃ entry ∈ snapshot.blocks.liquidation.entries, entry.2.status.quality ≠ .unavailable
  | .orderBookLiquidity =>
      ∃ orderBook ∈ snapshot.blocks.orderBook, orderBook.status.quality ≠ .unavailable ∧
        ∃ entry ∈ orderBook.bands.entries, OrderBookLiquidityAnalyst.UsableBand entry.2
  | .openInterest =>
      ∃ openInterest ∈ snapshot.blocks.openInterest,
        openInterest.status.quality ≠ .unavailable ∧
          ∃ entry ∈ openInterest.windows.entries, OpenInterestAnalyst.UsableWindow entry.2
  | .funding =>
      ∃ funding ∈ snapshot.blocks.funding, funding.status.quality ≠ .unavailable ∧
        (funding.latestFundingRate.isSome ∨ funding.markIndexBasisBps.isSome ∨
          ∃ entry ∈ funding.windows.entries,
            entry.2.status.quality ≠ .unavailable ∧ entry.2.fundingTrend.isSome)
  | .priceFlowRelationship =>
      (∃ entry ∈ snapshot.blocks.crossFeatures.entries,
        entry.2.status.quality ≠ .unavailable ∧ entry.2.correlation.isSome) ∨
      ∃ entry ∈ snapshot.blocks.priceContext.entries,
        PriceFlowRelationshipAnalyst.Comparable snapshot entry

theorem FlowAnalystType.draft_spec (analyst : FlowAnalystType) :
    (analyst.draft snapshot).Sound snapshot ∧
      ((analyst.draft snapshot).observations ≠ [] ↔ Usable snapshot analyst) := by
  have hempty : FlowDraft.Sound snapshot {} ∧ ¬ (({} : FlowDraft).observations ≠ []) :=
    ⟨FlowDraft.sound_nil, fun h => h rfl⟩
  cases analyst with
  | takerFlow => exact ⟨TakerFlowAnalyst.draft_sound, TakerFlowAnalyst.draft_observes⟩
  | liquidation => exact ⟨LiquidationAnalyst.draft_sound, LiquidationAnalyst.draft_observes⟩
  | orderBookLiquidity =>
      cases hblock : snapshot.blocks.orderBook with
      | none => simpa [draft, OrderBookLiquidityAnalyst.draft, Usable, hblock] using hempty
      | some orderBook =>
          by_cases hquality : orderBook.status.quality = .unavailable
          · simpa [draft, OrderBookLiquidityAnalyst.draft, Usable, hblock, hquality] using hempty
          · have h := OrderBookLiquidityAnalyst.draft_of_usable hblock hquality
            exact ⟨h.1, h.2.trans (by simp [Usable, hblock, hquality])⟩
  | openInterest =>
      cases hblock : snapshot.blocks.openInterest with
      | none => simpa [draft, OpenInterestAnalyst.draft, Usable, hblock] using hempty
      | some openInterest =>
          by_cases hquality : openInterest.status.quality = .unavailable
          · simpa [draft, OpenInterestAnalyst.draft, Usable, hblock, hquality] using hempty
          · have h := OpenInterestAnalyst.draft_of_usable hblock hquality
            exact ⟨h.1, h.2.trans (by simp [Usable, hblock, hquality])⟩
  | funding =>
      cases hblock : snapshot.blocks.funding with
      | none => simpa [draft, FundingAnalyst.draft, Usable, hblock] using hempty
      | some funding =>
          by_cases hquality : funding.status.quality = .unavailable
          · simpa [draft, FundingAnalyst.draft, Usable, hblock, hquality] using hempty
          · have h := FundingAnalyst.draft_of_usable hblock hquality
            exact ⟨h.1, h.2.trans (by simp [Usable, hblock, hquality])⟩
  | priceFlowRelationship =>
      exact ⟨PriceFlowRelationshipAnalyst.draft_sound,
        PriceFlowRelationshipAnalyst.draft_observes⟩

/-- The evidence of a result bears its observations out, and these its quality; without one it is
an abstention. -/
structure FlowAnalysisResult.Graded (result : FlowAnalysisResult) : Prop where
  /-- Every observation cites evidence of the result, and is graded as the worst of it. -/
  grounded : flowCiting.Grounded result.evidence result.observations
  /-- The result is graded as the worst of its observations. -/
  quality : result.quality = if result.observations = [] then .unavailable
    else worseOfMany (result.observations.map FlowAnalysisObservation.quality)
  abstains : result.status = .abstained ↔ result.observations = []

variable {snapshot}

/-- No origin is empty. -/
def Originated (snapshot : FlowFeatureSnapshot FlowBlocks) : Prop :=
  ∀ entry ∈ snapshot.provenance, entry.2 ≠ ""

theorem provenanceLabel_ne_empty (h : Originated snapshot) (domain : String) :
    provenanceLabel snapshot domain ≠ "" := by
  unfold provenanceLabel
  cases hfind : snapshot.provenance.find? fun entry => entry.1 = domain with
  | none => decide
  | some entry => exact h entry (List.mem_of_find?_eq_some hfind)

/-- A sound draft passes the validators. -/
theorem validate_of_sound {draft : FlowDraft} (h : draft.Sound snapshot)
    (horigin : Originated snapshot) {result : FlowAnalysisResult}
    (hevidence : result.evidence = draft.evidence)
    (hobservations : result.observations = draft.observations)
    (hstatus : result.status = .analyzed) (hreasons : result.abstentionReasons = []) :
    result.validate = .ok () := by
  unfold FlowAnalysisResult.validate
  rw [unit_bind_ok_iff, unit_bind_ok_iff, hevidence, hobservations, hstatus]
  refine ⟨forM_ok_iff.mpr fun evidence he => ?_, forM_ok_iff.mpr fun observation ho => ?_,
    check_ok_iff.mpr hreasons⟩
  · obtain ⟨domain, hdomain⟩ := h.about evidence he
    exact check_ok_iff.mpr (hdomain ▸ provenanceLabel_ne_empty horigin domain)
  · have hbacked := h.grounded observation ho
    refine check_bind_ok.mpr ⟨h.values observation ho, check_bind_ok.mpr ⟨hbacked.1, ?_⟩⟩
    exact forM_ok_iff.mpr fun ref href => check_ok_iff.mpr (hbacked.refs_lt ref href)

/-- What a sound draft concludes. -/
theorem conclude_graded {draft : FlowDraft} (h : draft.Sound snapshot)
    (horigin : Originated snapshot) (key : FlowAnalystType) (reason : String)
    (provenance : List (String × String)) :
    ∃ result, draft.conclude snapshot key reason provenance = .ok result ∧ result.key = key ∧
      result.identity = snapshot.identity ∧ result.Graded ∧
      result.observations = draft.observations ∧
      result.provenance = if draft.observations = [] then [] else provenance := by
  unfold FlowDraft.conclude
  split_ifs with hnone
  · refine ⟨_, unit_bind_ok_iff.mpr ⟨rfl, rfl⟩, rfl, rfl, ⟨?_, rfl, ?_⟩, hnone.symm, rfl⟩
    · exact fun _ ho => absurd ho List.not_mem_nil
    · exact iff_of_true rfl rfl
  · refine ⟨_, unit_bind_ok_iff.mpr ⟨validate_of_sound h horigin rfl rfl rfl rfl, rfl⟩, rfl, rfl,
      ⟨h.grounded, (if_neg hnone).symm, ?_⟩, rfl, rfl⟩
    exact iff_of_false (fun hstatus => by cases hstatus) hnone

/-- The origins a result reports. -/
def FlowAnalystType.origins (snapshot : FlowFeatureSnapshot FlowBlocks) :
    FlowAnalystType → List (String × String)
  | .takerFlow => [("taker_flow", provenanceLabel snapshot "taker_flow")]
  | .liquidation => [("liquidation", provenanceLabel snapshot "liquidation")]
  | .orderBookLiquidity => [("order_book", provenanceLabel snapshot "order_book")]
  | .openInterest => [("open_interest", provenanceLabel snapshot "open_interest")]
  | .funding => [("funding", provenanceLabel snapshot "funding")]
  | .priceFlowRelationship => PriceFlowRelationshipAnalyst.provenance snapshot

/-- What an analyst makes of a snapshot. -/
theorem FlowAnalystType.analyze_spec (horigin : Originated snapshot) (analyst : FlowAnalystType) :
    ∃ result, analyst.analyze snapshot = .ok result ∧ result.key = analyst ∧
      result.identity = snapshot.identity ∧ result.Graded ∧
      result.observations = (analyst.draft snapshot).observations ∧
      result.provenance = if (analyst.draft snapshot).observations = [] then []
        else analyst.origins snapshot := by
  have hsound := (analyst.draft_spec snapshot).1
  cases analyst <;> exact conclude_graded hsound horigin _ _ _

/-- **Of any snapshot whose domains have an origin, every analyst makes a result that passes its
validators, that its evidence bears out, and that analyzes exactly what is usable.** -/
theorem flow_analysts_graded (horigin : Originated snapshot) (analyst : FlowAnalystType) :
    ∃ result, analyst.analyze snapshot = .ok result ∧ result.key = analyst ∧
      result.identity = snapshot.identity ∧ result.Graded ∧
      (result.status = .analyzed ↔ Usable snapshot analyst) := by
  obtain ⟨result, hresult, hkey, hidentity, hgraded, hobservations, -⟩ :=
    analyst.analyze_spec horigin
  refine ⟨result, hresult, hkey, hidentity, hgraded, ?_⟩
  rw [← (analyst.draft_spec snapshot).2, ← hobservations, ne_eq, ← hgraded.abstains]
  cases result.status <;> decide

/-- The calculators give every domain an origin. -/
theorem originated_provenance (identity : FlowIdentity) (blocks : FlowBlocks) :
    Originated ⟨identity, blocks, blocks.provenance⟩ := by
  intro entry hentry
  simp only [FlowBlocks.provenance, List.mem_append, Option.mem_toList, Option.map_eq_some_iff]
    at hentry
  rcases hentry with ((((h | h) | h) | h) | h) | h
  · obtain ⟨block, -, rfl⟩ := h
    exact block.source.2
  · obtain ⟨block, -, rfl⟩ := h
    exact block.source.2
  · obtain ⟨block, -, rfl⟩ := h
    exact block.source.2
  · obtain ⟨block, -, rfl⟩ := h
    exact block.2.source.2
  · obtain ⟨block, -, rfl⟩ := h
    exact block.2.source.2
  · obtain ⟨block, -, rfl⟩ := h
    exact block.2.source.2

end Analysts

/-- The snapshot of the sample. -/
def sampleFlowSnapshot : FlowFeatureSnapshot FlowBlocks :=
  let identity : FlowIdentity := ⟨btcusdt, .perpetual, 20000000, [tenSeconds]⟩
  let blocks := wholeBlocks sampleFlowSetting identity [.trade (sampleTrade 13000000)]
  ⟨identity, blocks, blocks.provenance⟩

theorem flow_analysts_graded_sample :
    ∃ result, FlowAnalystType.takerFlow.analyze sampleFlowSnapshot = .ok result ∧
      result.key = .takerFlow ∧ result.identity = sampleFlowSnapshot.identity ∧ result.Graded ∧
      (result.status = .analyzed ↔ Usable sampleFlowSnapshot .takerFlow) :=
  flow_analysts_graded (originated_provenance _ _) .takerFlow

end TradingAdvisor
