import Mathlib.Data.List.Nodup
import WeatherRadar.Pipeline.WorkerSettings
import WeatherRadar.Proofs.Layer
import WeatherRadar.Proofs.Pipeline.Calls
/-!
# The layers that a worker keeps current

The entries of a file may name a layer several times, in any case of letters, with blanks around it
and disabled.  The layers of a worker are the first occurrences of those that enabled entries name
(`isFirsts_layerIds`).  For settings that pass the checks, each of them is read back from its text
and has one slot in a store.
-/

namespace WeatherRadar.Pipeline

/-! ## First occurrences -/

section Firsts

variable {α : Type} [DecidableEq α] {xs ys zs : List α} {x : α}

/-- The members of a list, each once, in the order in which they first occur in it. -/
structure IsFirsts (xs ys : List α) : Prop where
  nodup : ys.Nodup
  mem_iff : ∀ x, x ∈ ys ↔ x ∈ xs
  ordered : ys.Pairwise (xs.idxOf · < xs.idxOf ·)

namespace IsFirsts

theorem nil : IsFirsts ([] : List α) [] := ⟨List.nodup_nil, fun _ => Iff.rfl, .nil⟩

/-- What comes behind a list does not move the first occurrences in it. -/
theorem ordered_append (h : IsFirsts xs ys) (more : List α) :
    ys.Pairwise ((xs ++ more).idxOf · < (xs ++ more).idxOf ·) := by
  refine h.ordered.imp_of_mem fun ha hb hab => ?_
  rwa [List.idxOf_append_of_mem ((h.mem_iff _).1 ha), List.idxOf_append_of_mem ((h.mem_iff _).1 hb)]

theorem concat_of_mem (h : IsFirsts xs ys) (hx : x ∈ xs) : IsFirsts (xs ++ [x]) ys := by
  refine ⟨h.nodup, fun a => ?_, h.ordered_append [x]⟩
  rw [h.mem_iff, List.mem_append, List.mem_singleton]
  exact ⟨Or.inl, fun ha => ha.elim id fun hax => hax ▸ hx⟩

theorem concat_of_not_mem (h : IsFirsts xs ys) (hx : x ∉ xs) :
    IsFirsts (xs ++ [x]) (ys ++ [x]) := by
  have hnew : x ∉ ys := fun hmem => hx ((h.mem_iff x).1 hmem)
  refine ⟨List.concat_eq_append ▸ h.nodup.concat hnew, fun a => ?_, ?_⟩
  · rw [List.mem_append, List.mem_append, h.mem_iff]
  · refine List.pairwise_append.2 ⟨h.ordered_append [x], List.pairwise_singleton _ _, ?_⟩
    intro a ha b hb
    rw [List.mem_singleton.1 hb, List.idxOf_append_of_mem ((h.mem_iff a).1 ha),
      List.idxOf_append_of_notMem hx]
    exact Nat.lt_add_right _ (List.idxOf_lt_length_of_mem ((h.mem_iff a).1 ha))

theorem concat (h : IsFirsts xs ys) (x : α) :
    IsFirsts (xs ++ [x]) (if !ys.contains x then ys ++ [x] else ys) := by
  rw [List.contains_eq_mem]
  by_cases hx : x ∈ ys
  · rw [decide_eq_true hx]
    exact h.concat_of_mem ((h.mem_iff x).1 hx)
  · rw [decide_eq_false hx]
    exact h.concat_of_not_mem fun hmem => hx ((h.mem_iff x).2 hmem)

/-- There is one list of first occurrences. -/
theorem unique (hy : IsFirsts xs ys) (hz : IsFirsts xs zs) : ys = zs := by
  refine List.Perm.eq_of_pairwise (fun a b _ _ hab hba => absurd hba (Nat.lt_asymm hab))
    hy.ordered hz.ordered ?_
  rw [List.perm_ext_iff_of_nodup hy.nodup hz.nodup]
  intro a
  rw [hy.mem_iff, hz.mem_iff]

end IsFirsts

end Firsts

/-! ## The layers of entries -/

/-- The layer that an entry names: its site, trimmed and in upper case, and its product. -/
def LayerEntry.id (entry : LayerEntry) : LayerId :=
  ⟨upperCase (trimBlanks entry.site), entry.product⟩

namespace WorkerSettings

/-- The layers that enabled entries name, with repetitions. -/
def enabledIds (settings : WorkerSettings) : List LayerId :=
  (settings.layers.filter (·.enabled)).map LayerEntry.id

theorem mem_enabledIds {settings : WorkerSettings} {id : LayerId} :
    id ∈ settings.enabledIds ↔
      ∃ entry ∈ settings.layers, entry.enabled = true ∧ entry.id = id := by
  simp only [enabledIds, List.mem_map, List.mem_filter, and_assoc]

theorem isFirsts_layerIds (settings : WorkerSettings) :
    IsFirsts settings.enabledIds settings.layerIds := by
  obtain ⟨source, pipeline, sitesFile, palettesFile, layers⟩ := settings
  simp only [enabledIds, layerIds]
  induction layers using List.reverseRecOn with
  | nil => exact .nil
  | append_singleton layers entry ih =>
      rw [List.foldl_concat, List.filter_append, List.map_append]
      cases henabled : entry.enabled with
      | false => simpa [henabled] using ih
      | true => simpa [henabled, LayerEntry.id, LayerId.ofSite] using ih.concat entry.id

/-! ## Settings that pass the checks -/

theorem isSiteId_of_mem {settings : WorkerSettings} (h : settings.fault? = none)
    {entry : LayerEntry} (hentry : entry ∈ settings.layers) : isSiteId entry.site = true := by
  unfold fault? at h
  split at h
  · cases h
  · rw [Option.orElse_eq_orElse, Option.orElse_eq_or, Option.or_eq_none_iff] at h
    have hfault := List.findSome?_eq_none_iff.1 h.1 entry hentry
    unfold layerFault? at hfault
    split at hfault
    · cases hfault
    next hsite => rwa [Bool.not_eq_true', Bool.not_eq_false] at hsite

/-- The text of a site id and a product spells the layer of the site. -/
theorem ofText_of_isSiteId {site : String} (h : isSiteId site = true) (product : ProductCode) :
    LayerId.ofText (LayerId.mk site product).text = .ok (LayerId.ofSite site product) := by
  obtain ⟨hsize, hall⟩ := Bool.and_eq_true_iff.1 h
  have halphanumeric : ∀ c ∈ (trimBlanks site).toList, c.isAlphanum = true := by
    intro c hc
    rw [← LayerId.isAlphanumeric_eq]
    exact List.all_eq_true.1 hall c hc
  have htrims : TrimsTo site.toList (trimBlanks site).toList := toList_trimBlanks_eq_iff.1 rfl
  have hslash : '/' ∉ site.toList := by
    intro hmem
    by_cases hcore : '/' ∈ (trimBlanks site).toList
    · exact absurd (halphanumeric _ hcore) (by decide)
    · exact absurd (htrims.isBlank_of_not_mem hmem hcore) (by decide)
  have hne : (trimBlanks site).toList ≠ [] := by
    intro hnil
    rw [String.toList_eq_nil_iff.1 hnil] at hsize
    cases hsize
  have hnumeral := isNumeral_toString product.toInt
  refine LayerId.ofText_eq_ok_iff.2 ⟨(trimBlanks site).toList, ⟨⟨_, _, _, LayerId.toList_text _,
    hslash, htrims, trimsTo_self (LayerId.isBlank_of_isNumeral hnumeral), hnumeral⟩, hne,
    halphanumeric, product.le_toInt, Int.le_of_lt_add_one product.toInt_lt⟩, ?_⟩
  exact toList_upperCase fun c hc => LayerId.toNat_lt_of_isAlphanum (halphanumeric c hc)

end WorkerSettings

/-! ## Slots of layers -/

/-- A store has one slot of every layer it is made for, and no other one. -/
theorem FrameStore.filter_slots_ofLayers (layers : List LayerId) (layer : LayerId) :
    (ofLayers layers).slots.filter (·.1 = layer) =
      if layer ∈ layers then [(layer, {})] else [] := by
  have hslots : (ofLayers layers).slots.filter (·.1 = layer) =
      ((distinct layers).filter (· = layer)).map fun layer => (layer, {}) := List.filter_map
  rw [hslots, List.filter_eq]
  by_cases hmem : layer ∈ layers
  · rw [List.count_eq_one_of_mem (nodup_distinct layers) (mem_distinct.2 hmem), if_pos hmem]
    rfl
  · rw [List.count_eq_zero_of_not_mem fun h => hmem (mem_distinct.1 h), if_neg hmem]
    rfl

namespace WorkerSettings

/-- The layers of a worker are the layers that enabled entries name, each once and in the order in
which they come first.  Disabled entries make no difference.  If the settings pass the checks, every
layer is read back from its text.  A store for the layers has one empty slot of each of them and no
other one. -/
theorem layerIds_deduplicated {settings : WorkerSettings} (h : settings.fault? = none) :
    IsFirsts settings.enabledIds settings.layerIds ∧
    (∀ id, id ∈ settings.layerIds ↔
      ∃ entry ∈ settings.layers, entry.enabled = true ∧ entry.id = id) ∧
    (∀ other : WorkerSettings,
      other.layers.filter (·.enabled) = settings.layers.filter (·.enabled) →
      other.layerIds = settings.layerIds) ∧
    (∀ id ∈ settings.layerIds, LayerId.ofText id.text = .ok id) ∧
    ∀ id, (FrameStore.ofLayers settings.layerIds).slots.filter (·.1 = id) =
      if id ∈ settings.layerIds then [(id, {})] else [] := by
  have hfirsts := isFirsts_layerIds settings
  have hmem : ∀ id, id ∈ settings.layerIds ↔
      ∃ entry ∈ settings.layers, entry.enabled = true ∧ entry.id = id := by
    intro id
    rw [hfirsts.mem_iff, mem_enabledIds]
  refine ⟨hfirsts, hmem, fun other hother => ?_, fun id hid => ?_,
    FrameStore.filter_slots_ofLayers settings.layerIds⟩
  · have hotherFirsts := isFirsts_layerIds other
    rw [enabledIds, hother] at hotherFirsts
    exact hotherFirsts.unique hfirsts
  · obtain ⟨entry, hentry, -, rfl⟩ := (hmem id).1 hid
    exact LayerId.ofText_text (ofText_of_isSiteId (isSiteId_of_mem h hentry) entry.product)

/-- A layer that is disabled first, spelled in three ways, and another one of its site. -/
theorem layerIds_deduplicated_spellings :
    let layers : List LayerEntry := [⟨"KTLX", 94, false⟩, ⟨"\tktlx ", 94, true⟩,
      ⟨"Kfws", 99, true⟩, ⟨"KTLX", 94, true⟩, ⟨"KAMX", 94, false⟩, ⟨"ktlX", 99, true⟩]
    let settings : WorkerSettings := ⟨none, none, none, none, layers⟩
    let ids : List LayerId := [⟨"KTLX", 94⟩, ⟨"KFWS", 99⟩, ⟨"KTLX", 99⟩]
    settings.fault? = none ∧ settings.layerIds = ids ∧ IsFirsts settings.enabledIds ids ∧
      (∀ id ∈ ids, LayerId.ofText id.text = .ok id) ∧
      (FrameStore.ofLayers ids).slots.filter (·.1 = ⟨"KTLX", 94⟩) = [(⟨"KTLX", 94⟩, {})] ∧
      (FrameStore.ofLayers ids).slots.filter (·.1 = ⟨"KAMX", 94⟩) = [] := by
  intro layers settings ids
  have hfault : settings.fault? = none := by rfl
  have hids : settings.layerIds = ids := by rfl
  obtain ⟨hfirsts, -, -, htexts, hslots⟩ := layerIds_deduplicated hfault
  rw [hids] at hfirsts htexts hslots
  exact ⟨hfault, hids, hfirsts, htexts, hslots ⟨"KTLX", 94⟩, hslots ⟨"KAMX", 94⟩⟩

end WorkerSettings

end WeatherRadar.Pipeline
