-- Settings in force. Providers are checked before anything is made sane, and the
-- environment has its word after that. Still, whatever is accepted fits together,
-- is sane as it stands, and has one member of the orchestrator for each provider.
import FeedSearch.Config.Assembly
import FeedSearch.Config.Load
import FeedSearch.Proofs.OrdersOfEnds
import FeedSearch.Proofs.TrimmedTexts

namespace FeedSearch

/-! ## Members -/

namespace Fetch

theorem latest_of_nodup {adapters : List Adapter} (h : (adapters.map (·.name)).Nodup) :
    latest adapters = adapters := by
  induction adapters with
  | nil => rfl
  | cons a rest ih =>
    obtain ⟨hnew, hrest⟩ := List.nodup_cons.mp h
    rw [latest, if_neg hnew, ih hrest]

end Fetch

namespace Config

/-! ## Standards in the place of zero -/

section Standards

variable {α : Type} [BEq α] [LawfulBEq α] [OfNat α 0] {standard : α}

theorem orStandard_ne_zero (n : α) (h : standard ≠ 0) : orStandard n standard ≠ 0 := by
  unfold orStandard
  split
  · exact h
  · rename_i hn
    exact fun he => hn (beq_iff_eq.mpr he)

theorem orStandard_of_ne_zero {n : α} (h : n ≠ 0) : orStandard n standard = n := by
  unfold orStandard
  rw [if_neg (by simpa using h)]

end Standards

/-! ## Coherence -/

/-- A provider that can be named, reached and waited for. -/
structure ProviderSettings.Coherent (p : ProviderSettings) : Prop where
  name : p.name ≠ ""
  name_trimmed : Text.trim p.name = p.name
  source : p.source ≠ ""
  source_trimmed : Text.trim p.source = p.source
  timeout : 0 < p.timeoutMillis

/-- Settings that fit together: nothing that has to be there is zero, a page of the default size is
a page that may be asked for, and no name of a provider comes twice. -/
structure Settings.Coherent (s : Settings) : Prop where
  defaultPageSize : 0 < s.search.defaultPageSize
  pageSizes : s.search.defaultPageSize ≤ s.search.maxPageSize
  fetchTimeout : 0 < s.search.fetchTimeoutMillis
  ttl : 0 < s.cache.ttlSeconds
  maxEntries : 0 < s.cache.maxEntries
  maxFailures : 0 < s.breaker.maxFailures
  reset : 0 < s.breaker.resetSeconds
  providers : ∀ p ∈ s.providers, p.Coherent
  names : (s.providers.map (·.name)).Nodup

theorem ProviderSettings.Coherent.sane_eq {p : ProviderSettings} (h : p.Coherent) : p.sane = p := by
  have htimeout : p.timeoutMillis ≠ 0 := UInt64.pos_iff_ne_zero.mp h.timeout
  unfold ProviderSettings.sane
  rw [h.name_trimmed, h.source_trimmed, orStandard_of_ne_zero htimeout]

/-- Settings that fit together are sane. -/
theorem Settings.Coherent.sane_eq {s : Settings} (h : s.Coherent) : s.sane = s := by
  have hmost : s.search.maxPageSize ≠ 0 :=
    Nat.ne_of_gt (Nat.lt_of_lt_of_le h.defaultPageSize h.pageSizes)
  have hsearch : s.search.sane = s.search := by
    have hdefault : ¬(s.search.defaultPageSize == 0 ||
        s.search.maxPageSize < s.search.defaultPageSize) := by
      simp [Nat.ne_of_gt h.defaultPageSize, h.pageSizes]
    unfold SearchSettings.sane
    simp only [orStandard_of_ne_zero hmost,
      orStandard_of_ne_zero (UInt64.pos_iff_ne_zero.mp h.fetchTimeout), if_neg hdefault]
  have hcache : s.cache.sane = s.cache := by
    unfold CacheSettings.sane
    rw [orStandard_of_ne_zero (UInt64.pos_iff_ne_zero.mp h.ttl),
      orStandard_of_ne_zero (Nat.ne_of_gt h.maxEntries)]
  have hbreaker : s.breaker.sane = s.breaker := by
    unfold BreakerSettings.sane
    rw [orStandard_of_ne_zero (UInt32.pos_iff_ne_zero.mp h.maxFailures),
      orStandard_of_ne_zero (UInt64.pos_iff_ne_zero.mp h.reset)]
  have hproviders : s.providers.map ProviderSettings.sane = s.providers :=
    (List.map_congr_left fun p hp => (h.providers p hp).sane_eq).trans (List.map_id _)
  unfold Settings.sane
  rw [hsearch, hcache, hbreaker, hproviders]

/-! ## What is checked -/

/-- Providers without a fault: no name and no source is blank, and the names without the blanks
around them are different. -/
structure Checked (ps : List ProviderSettings) : Prop where
  names : ∀ p ∈ ps, Text.isBlankText p.name = false
  sources : ∀ p ∈ ps, Text.isBlankText p.source = false
  distinct : (ps.map fun p => Text.trim p.name).Nodup

theorem checkProviders_checked {known : List String} {ps : List ProviderSettings}
    (h : checkProviders known ps = .ok ()) :
    Checked ps ∧ ∀ p ∈ ps, Text.trim p.name ∉ known := by
  induction ps generalizing known with
  | nil => exact ⟨⟨nofun, nofun, List.nodup_nil⟩, nofun⟩
  | cons p rest ih =>
    simp only [checkProviders] at h
    split at h
    · cases h
    · rename_i hname
      split at h
      · cases h
      · rename_i hsource
        split at h
        · cases h
        · rename_i hnew
          obtain ⟨hrest, hothers⟩ := ih h
          have hnamed : Text.isBlankText p.name = false := by
            rw [Bool.eq_false_iff]
            intro hblank
            rw [(Text.trim_eq_empty_iff _).mpr hblank] at hname
            exact hname rfl
          have hfirst : Text.trim p.name ∉ rest.map fun q => Text.trim q.name := by
            intro hmem
            obtain ⟨q, hq, he⟩ := List.mem_map.mp hmem
            exact hothers q hq (he ▸ List.mem_cons_self)
          refine ⟨⟨?_, ?_, List.nodup_cons.mpr ⟨hfirst, hrest.distinct⟩⟩, ?_⟩
          · exact List.forall_mem_cons.mpr ⟨hnamed, hrest.names⟩
          · exact List.forall_mem_cons.mpr ⟨Bool.eq_false_iff.mpr hsource, hrest.sources⟩
          · refine List.forall_mem_cons.mpr ⟨by simpa using hnew, fun q hq hmem => ?_⟩
            exact hothers q hq (List.mem_cons_of_mem _ hmem)

theorem Checked.sane {ps : List ProviderSettings} (h : Checked ps) :
    Checked (ps.map ProviderSettings.sane) := by
  have hnames : (ps.map ProviderSettings.sane).map (fun p => Text.trim p.name) =
      ps.map fun p => Text.trim p.name := by
    rw [List.map_map]
    exact List.map_congr_left fun p _ => Text.trim_trim p.name
  constructor
  · intro p hp
    obtain ⟨raw, hraw, rfl⟩ := List.mem_map.mp hp
    exact (Text.isBlankText_trim raw.name).trans (h.names raw hraw)
  · intro p hp
    obtain ⟨raw, hraw, rfl⟩ := List.mem_map.mp hp
    exact (Text.isBlankText_trim raw.source).trans (h.sources raw hraw)
  · exact hnames ▸ h.distinct

/-- Another largest size is in force before the default size is held against it. -/
theorem SearchSettings.sane_pageSizes (s : SearchSettings) :
    0 < s.sane.defaultPageSize ∧ s.sane.defaultPageSize ≤ s.sane.maxPageSize := by
  have hmost : orStandard s.maxPageSize standard.maxPageSize ≠ 0 :=
    orStandard_ne_zero s.maxPageSize (by decide)
  unfold sane
  simp only
  generalize orStandard s.maxPageSize standard.maxPageSize = most at hmost
  split
  · have hstandard : 0 < standard.defaultPageSize := by decide
    exact ⟨Nat.lt_min.mpr ⟨hstandard, Nat.pos_of_ne_zero hmost⟩, Nat.min_le_right _ _⟩
  · rename_i hfits
    simp only [Bool.or_eq_true, beq_iff_eq, decide_eq_true_eq, not_or, Nat.not_lt] at hfits
    exact ⟨Nat.pos_of_ne_zero hfits.1, hfits.2⟩

namespace Settings

variable {s : Settings}

/-- What is sane fits together if its providers have been checked before. -/
theorem coherent_sane (h : Checked s.providers) : s.sane.Coherent where
  defaultPageSize := s.search.sane_pageSizes.1
  pageSizes := s.search.sane_pageSizes.2
  fetchTimeout := UInt64.pos_iff_ne_zero.mpr (orStandard_ne_zero _ (by decide))
  ttl := UInt64.pos_iff_ne_zero.mpr (orStandard_ne_zero _ (by decide))
  maxEntries := Nat.pos_of_ne_zero (orStandard_ne_zero _ (by decide))
  maxFailures := UInt32.pos_iff_ne_zero.mpr (orStandard_ne_zero _ (by decide))
  reset := UInt64.pos_iff_ne_zero.mpr (orStandard_ne_zero _ (by decide))
  providers := by
    intro p hp
    obtain ⟨raw, hraw, rfl⟩ := List.mem_map.mp hp
    exact {
      name := Text.trim_ne_empty (h.names raw hraw)
      name_trimmed := Text.trim_trim raw.name
      source := Text.trim_ne_empty (h.sources raw hraw)
      source_trimmed := Text.trim_trim raw.source
      timeout := UInt64.pos_iff_ne_zero.mpr (orStandard_ne_zero _ (by decide)) }
  names := by
    have hnames : s.sane.providers.map (·.name) = s.providers.map fun p => Text.trim p.name :=
      List.map_map
    exact hnames ▸ h.distinct

/-! ## What is accepted -/

/-- Settings that have been accepted: those of a text, or those of the files and the environment. -/
inductive Accepted (s : Settings) : Prop where
  | ofText (text : String) (h : Settings.ofText text = .ok s)
  | loaded (files : Files) (env : Environment) (h : Settings.load files env = .ok s)

theorem written_checked {text : String} (h : written text = .ok s) : Checked s.providers := by
  unfold written at h
  split at h
  · cases h
  · obtain ⟨read, _, h⟩ := bind_eq_ok h
    obtain ⟨_, hchecked, h⟩ := bind_eq_ok h
    obtain rfl := Except.ok.inj h
    exact (checkProviders_checked (mapError_eq_ok hchecked)).1

theorem ofText_checked {text : String} (h : Settings.ofText text = .ok s) :
    ∃ raw : Settings, Checked raw.providers ∧ raw.sane = s := by
  obtain ⟨raw, hraw, rfl⟩ := map_eq_ok h
  exact ⟨raw, written_checked hraw, rfl⟩

theorem ofFile_checked {files : Files} {path : String} (h : Settings.ofFile files path = .ok s) :
    Checked s.providers := by
  obtain ⟨text, _, htext⟩ := bind_eq_ok h
  obtain ⟨raw, hraw, rfl⟩ := ofText_checked (mapError_eq_ok htext)
  exact hraw.sane

theorem found_checked {files : Files} {env : Environment} (h : found files env = .ok s) :
    Checked s.providers := by
  unfold found at h
  split at h
  · split at h
    · exact ofFile_checked h
    · cases h
  · split at h
    · exact ofFile_checked h
    · obtain rfl := Except.ok.inj h
      exact ⟨nofun, nofun, List.nodup_nil⟩

/-- Whatever is accepted has been checked, and made sane last. The environment adds no provider. -/
theorem Accepted.exists_checked (h : s.Accepted) :
    ∃ raw : Settings, Checked raw.providers ∧ raw.sane = s := by
  cases h with
  | ofText text h => exact ofText_checked h
  | loaded files env h =>
    obtain ⟨raw, hraw, rfl⟩ := map_eq_ok h
    have hchecked : Checked raw.providers := found_checked hraw
    exact ⟨raw.override env, hchecked, rfl⟩

theorem Accepted.coherent (h : s.Accepted) : s.Coherent := by
  obtain ⟨raw, hraw, rfl⟩ := h.exists_checked
  exact coherent_sane hraw

/-! ## One member for each provider -/

theorem orchestrator_members (h : s.Coherent) (outside : Feed.Surroundings) :
    (s.orchestrator outside).members =
      s.providers.map fun p => ⟨p.provider.adapter outside, []⟩ := by
  let adapters := s.providers.map fun p => p.provider.adapter outside
  have hnames : (adapters.map (·.name)).Nodup := by
    rw [List.map_map]
    exact h.names
  have hregistered : s.orchestrator outside =
      (Fetch.Orchestrator.new (.empty s.breakerConfig) s.fetchTimeout).registerAll adapters :=
    List.foldl_map.symm
  rw [hregistered, Fetch.registerAll_members, Fetch.latest_of_nodup hnames]
  exact List.map_map

/-- Settings that are accepted, from whatever text, files and environment, fit together, and making
them sane once more changes nothing. The adapters of their providers, registered in order, all stay:
the orchestrator has the names of the settings in their order, and behind each name the adapter of
its own provider. -/
theorem accepted_settings_fit_together (h : s.Accepted) :
    s.Coherent ∧ s.sane = s ∧ ∀ outside,
      (s.orchestrator outside).names = s.providers.map (·.name) ∧
      (s.orchestrator outside).members.map (·.adapter) =
        s.providers.map fun p => p.provider.adapter outside := by
  have hcoherent := h.coherent
  refine ⟨hcoherent, hcoherent.sane_eq, fun outside => ?_⟩
  have hmembers := orchestrator_members hcoherent outside
  constructor
  · unfold Fetch.Orchestrator.names
    rw [hmembers, List.map_map]
    rfl
  · rw [hmembers, List.map_map]
    rfl

/-! ## Settings of zeros and blanks -/

/-- Blanks around names and sources, and a provider that nobody waits for. -/
def carelessText : String :=
  "providers = [[\" news \", \"json\", \"news.json \", 0], [\"blog\\t\", \"xml\", \" blog.xml\"]]"

/-- The one file, in its usual place. -/
def carelessFiles : Files := .ofTable [(standardPath, .ok carelessText)]

/-- No time to live, and no time to wait. -/
def carelessEnvironment : Environment := fun name =>
  [("SEARCH_CACHE_TTL_SECS", "0"), ("SEARCH_BREAKER_RESET_SECS", " 0 ")].lookup name

def tidySettings : Settings :=
  { Settings.standard with providers := [
      ⟨"news", .json, "news.json", 5000, 3, 1000, 60⟩,
      ⟨"blog", .xml, "blog.xml", 5000, 3, 1000, 60⟩] }

theorem carelessFiles_loaded :
    Settings.load carelessFiles carelessEnvironment = .ok tidySettings := by
  decide +kernel

/-- Standards stand in the place of the zeros, and both providers serve, in their order. -/
theorem careless_settings_fit_together :
    tidySettings.Accepted ∧ tidySettings.Coherent ∧ tidySettings.sane = tidySettings ∧
      ∀ outside, (tidySettings.orchestrator outside).names = ["news", "blog"] := by
  have haccepted : tidySettings.Accepted := .loaded _ _ carelessFiles_loaded
  obtain ⟨hcoherent, hsane, hserves⟩ := accepted_settings_fit_together haccepted
  exact ⟨haccepted, hcoherent, hsane, fun outside => (hserves outside).1⟩

end Settings

end Config

end FeedSearch
