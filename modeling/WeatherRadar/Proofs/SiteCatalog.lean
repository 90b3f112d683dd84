import Mathlib.Data.List.Dedup
import Mathlib.Data.List.Find
import WeatherRadar.Proofs.Keys
import WeatherRadar.Proofs.Text.Ascii
import WeatherRadar.Proofs.Text.Trimming
import WeatherRadar.Site
/-!
# Sites of a catalog

A catalog holds for each id the last site that was put under it, whatever order it keeps its sites
in (`Reached.get?_eq`).  Which site a query means is decided by what is held under ids alone
(`find?_eq_some_iff`), so that neither that order nor the order in which different ids were filled
shows in any answer (`lookup_well_defined`).
-/

namespace WeatherRadar.SiteCatalog

variable {given : List Site} {catalog : SiteCatalog} {id : String} {site : Site}

/-! ## What is held -/

/-- The catalogs that some sites fill one after another, if its sites may change places after each
of them. -/
inductive Reached : List Site → SiteCatalog → Prop where
  | empty : Reached [] empty
  | insert {given : List Site} {catalog : SiteCatalog} {site : Site} {sites : List Site} :
      Reached given catalog → sites.Perm (catalog.insert site).sites →
      Reached (given ++ [site]) ⟨sites⟩

/-- The last of some sites whose id, trimmed and in upper case, is this one, with the id in that
form. -/
def lastUnder? (given : List Site) (id : String) : Option Site :=
  (given.filter fun site => upperCase (trimBlanks site.id) == id).getLast?.map ({ · with id := id })

/-- No two sites of a catalog have the same id. -/
def HasDistinctIds (catalog : SiteCatalog) : Prop := (catalog.sites.map (·.id)).Nodup

theorem reached_ofSites (given : List Site) : Reached given (ofSites given) := by
  induction given using List.reverseRecOn with
  | nil => exact .empty
  | append_singleton given site ih =>
      rw [ofSites, List.foldl_concat]
      exact ih.insert (List.Perm.refl _)

theorem HasDistinctIds.insert (h : catalog.HasDistinctIds) (site : Site) :
    (catalog.insert site).HasDistinctIds := by
  rw [HasDistinctIds, SiteCatalog.insert, List.map_cons, List.nodup_cons]
  refine ⟨?_, h.sublist (List.filter_sublist.map _)⟩
  simp

theorem HasDistinctIds.perm {a b : SiteCatalog} (h : a.HasDistinctIds)
    (hperm : b.sites.Perm a.sites) : b.HasDistinctIds :=
  (hperm.map _).nodup_iff.2 h

theorem get?_eq_some_iff (h : catalog.HasDistinctIds) :
    catalog.get? id = some site ↔ site ∈ catalog.sites ∧ site.id = id := find?_key_eq_some_iff h

theorem mem_sites_iff (h : catalog.HasDistinctIds) :
    site ∈ catalog.sites ↔ catalog.get? site.id = some site := by
  rw [get?_eq_some_iff h, and_iff_left rfl]

theorem get?_insert (catalog : SiteCatalog) (site : Site) (id : String) :
    (catalog.insert site).get? id =
      if upperCase (trimBlanks site.id) = id then some { site with id := id }
      else catalog.get? id := by
  rw [get?, SiteCatalog.insert, normalId, List.find?_cons]
  by_cases hid : upperCase (trimBlanks site.id) = id
  · rw [if_pos hid, ← hid, beq_self_eq_true]
  · rw [if_neg hid, beq_eq_false_iff_ne.2 hid, List.find?_filter, get?]
    apply List.find?_congr
    intro other _
    rw [Bool.eq_iff_iff, decide_eq_true_eq, beq_iff_eq, bne_iff_ne]
    exact and_iff_right_of_imp fun hother hsame => hid (hsame.symm.trans hother)

theorem lastUnder?_concat (given : List Site) (site : Site) (id : String) :
    lastUnder? (given ++ [site]) id =
      if upperCase (trimBlanks site.id) = id then some { site with id := id }
      else lastUnder? given id := by
  rw [lastUnder?, List.filter_append]
  by_cases hid : upperCase (trimBlanks site.id) = id
  · simp [hid]
  · simp [hid, lastUnder?]

theorem Reached.hasDistinctIds (h : Reached given catalog) : catalog.HasDistinctIds := by
  induction h with
  | empty => exact List.nodup_nil
  | insert _ hperm ih => exact (ih.insert _).perm hperm

theorem Reached.get?_eq (h : Reached given catalog) (id : String) :
    catalog.get? id = lastUnder? given id := by
  induction h with
  | empty => rfl
  | insert hreached hperm ih =>
      rw [get?, find?_key_perm (hreached.hasDistinctIds.insert _) hperm, ← get?, get?_insert,
        lastUnder?_concat, ih]

theorem lastUnder?_isSome_iff :
    (lastUnder? given id).isSome = true ↔ ∃ site ∈ given, upperCase (trimBlanks site.id) = id := by
  rw [lastUnder?, Option.isSome_map, List.getLast?_isSome]
  constructor
  · intro hne
    obtain ⟨site, hsite⟩ := List.exists_mem_of_ne_nil _ hne
    obtain ⟨hmem, hid⟩ := List.mem_filter.1 hsite
    exact ⟨site, hmem, beq_iff_eq.1 hid⟩
  · rintro ⟨site, hmem, hid⟩
    exact List.ne_nil_of_mem (List.mem_filter.2 ⟨hmem, beq_iff_eq.2 hid⟩)

/-- Which ids are held. -/
theorem Reached.mem_ids_iff (h : Reached given catalog) :
    id ∈ catalog.ids ↔ ∃ site ∈ given, upperCase (trimBlanks site.id) = id := by
  rw [ids, List.mem_mergeSort, ← lastUnder?_isSome_iff, ← h.get?_eq, List.mem_map]
  constructor
  · rintro ⟨site, hmem, rfl⟩
    rw [(mem_sites_iff h.hasDistinctIds).1 hmem]
    rfl
  · intro hsome
    obtain ⟨site, hfound⟩ := Option.isSome_iff_exists.1 hsome
    exact ⟨site, (get?_eq_some_iff h.hasDistinctIds).1 hfound⟩

/-- The ids are their own keys. -/
theorem HasDistinctIds.nodup_keys (h : catalog.HasDistinctIds) :
    ((catalog.sites.map (·.id)).map fun id => id).Nodup := by
  rw [List.map_id']
  exact h

theorem HasDistinctIds.pairwise_ids (h : catalog.HasDistinctIds) :
    catalog.ids.Pairwise (· < ·) := pairwise_mergeSort_key h.nodup_keys

/-- A catalog holds exactly the last site given under each id. -/
structure HoldsLast (given : List Site) (catalog : SiteCatalog) : Prop where
  get?_eq : ∀ id, catalog.get? id = lastUnder? given id
  mem_iff : ∀ site, site ∈ catalog.sites ↔ lastUnder? given site.id = some site
  /-- Each id is held once, and there are as many sites as ids. -/
  perm_ids : (catalog.sites.map (·.id)).Perm
    (given.map fun site => upperCase (trimBlanks site.id)).dedup
  size_eq : catalog.size = (given.map fun site => upperCase (trimBlanks site.id)).dedup.length
  ascending : catalog.ids.Pairwise (· < ·)
  mem_ids : ∀ id, id ∈ catalog.ids ↔ ∃ site ∈ given, upperCase (trimBlanks site.id) = id

theorem Reached.holdsLast (h : Reached given catalog) : HoldsLast given catalog := by
  have hdistinct := h.hasDistinctIds
  have hperm : (catalog.sites.map (·.id)).Perm
      (given.map fun site => upperCase (trimBlanks site.id)).dedup := by
    rw [List.perm_ext_iff_of_nodup hdistinct (List.nodup_dedup _)]
    intro id
    rw [List.mem_dedup, List.mem_map (l := given), ← h.mem_ids_iff, ids, List.mem_mergeSort]
  refine ⟨h.get?_eq, fun site => ?_, hperm, ?_, hdistinct.pairwise_ids, fun _ => h.mem_ids_iff⟩
  · rw [mem_sites_iff hdistinct, h.get?_eq]
  · rw [← hperm.length_eq, List.length_map, size]

/-! ## The site that a query means -/

/-- The site that a text, trimmed and in upper case, means, of those that are held: the one of that
id, for three letters else the one with a `K` in front, and else the only one that ends with
them. -/
inductive Means (given : List Site) (id : String) (site : Site) : Prop where
  | named (hsite : lastUnder? given id = some site)
  | regional (hnamed : lastUnder? given id = none) (hlength : id.length = 3)
      (hsite : lastUnder? given ("K" ++ id) = some site)
  | ending (hnamed : lastUnder? given id = none) (hlength : id.length = 3)
      (hregional : lastUnder? given ("K" ++ id) = none)
      (hsite : lastUnder? given site.id = some site) (hends : id.toList <:+ site.id.toList)
      (honly : ∀ other, lastUnder? given other.id = some other →
        id.toList <:+ other.id.toList → other = site)

theorem onlyEndingWith?_eq_some_iff (h : catalog.HasDistinctIds) :
    catalog.onlyEndingWith? id = some site ↔
      site ∈ catalog.sites ∧ id.toList <:+ site.id.toList ∧
        ∀ other ∈ catalog.sites, id.toList <:+ other.id.toList → other = site := by
  have hfound : catalog.onlyEndingWith? id = some site ↔
      (catalog.sites.filter fun site => id.toList.isSuffixOf site.id.toList) = [site] := by
    unfold onlyEndingWith?
    split
    next only honly => rw [honly, Option.some.injEq, List.cons.injEq, and_iff_left rfl]
    next hother =>
      constructor
      · intro hnone
        cases hnone
      · exact fun hsingle => absurd hsingle (hother site)
  have hnodup := (List.Nodup.of_map _ h).filter fun site => id.toList.isSuffixOf site.id.toList
  rw [hfound, ← List.perm_singleton, List.perm_ext_iff_of_nodup hnodup (List.nodup_singleton site)]
  simp only [List.mem_filter, List.isSuffixOf_iff_suffix, List.mem_singleton]
  constructor
  · intro hsame
    obtain ⟨hmem, hends⟩ := (hsame site).2 rfl
    exact ⟨hmem, hends, fun other hother hotherEnds => (hsame other).1 ⟨hother, hotherEnds⟩⟩
  · rintro ⟨hmem, hends, honly⟩ other
    constructor
    · exact fun hother => honly other hother.1 hother.2
    · rintro rfl
      exact ⟨hmem, hends⟩

theorem isAscii_upperCase_trimBlanks {query : String} (h : IsAscii query) :
    IsAscii (upperCase (trimBlanks query)) := by
  have htrim : IsAscii (trimBlanks query) := fun c hc =>
    h c ((toList_trimBlanks_eq_iff.1 rfl).mem hc)
  exact htrim.upperCase

theorem find?_eq_some_iff (h : Reached given catalog) {query : String} (hquery : IsAscii query) :
    catalog.find? query = some site ↔ Means given (upperCase (trimBlanks query)) site := by
  have hbytes := (isAscii_upperCase_trimBlanks hquery).utf8ByteSize
  have hstored : ∀ other, other ∈ catalog.sites ↔ lastUnder? given other.id = some other := by
    intro other
    rw [mem_sites_iff h.hasDistinctIds, h.get?_eq]
  simp only [find?, normalId, hbytes, h.get?_eq, Option.orElse_eq_orElse, Option.orElse_eq_or,
    Option.or_eq_some_iff, Option.ite_none_right_eq_some, beq_iff_eq,
    onlyEndingWith?_eq_some_iff h.hasDistinctIds, hstored]
  constructor
  · rintro (hsite | ⟨hnamed, hlength, hsite | ⟨hregional, hsite, hends, honly⟩⟩)
    · exact .named hsite
    · exact .regional hnamed hlength hsite
    · exact .ending hnamed hlength hregional hsite hends honly
  · rintro (hsite | ⟨hnamed, hlength, hsite⟩ | ⟨hnamed, hlength, hregional, hsite, hends, honly⟩)
    · exact Or.inl hsite
    · exact Or.inr ⟨hnamed, hlength, Or.inl hsite⟩
    · exact Or.inr ⟨hnamed, hlength, Or.inr ⟨hregional, hsite, hends, honly⟩⟩

/-- The degrees of a site are those of a place on the globe, and its meters those of one on land. -/
structure IsUsable (site : Site) : Prop where
  latitude : site.latitude.isFinite = true ∧ -90.0 ≤ site.latitude ∧ site.latitude ≤ 90.0
  longitude : site.longitude.isFinite = true ∧ -180.0 ≤ site.longitude ∧ site.longitude ≤ 180.0
  elevation : site.elevation.isFinite = true ∧ -500.0 ≤ site.elevation ∧ site.elevation ≤ 9000.0

theorem fault?_eq_none_iff (site : Site) : site.fault? = none ↔ IsUsable site := by
  have hrange : ∀ x low high : Float, ((!(x.isFinite && low ≤ x && x ≤ high)) = true) =
      ¬(x.isFinite = true ∧ low ≤ x ∧ x ≤ high) := by
    intro x low high
    rw [Bool.not_eq_true', ← Bool.not_eq_true, Bool.and_eq_true, Bool.and_eq_true,
      decide_eq_true_eq, decide_eq_true_eq, and_assoc]
  simp only [Site.fault?, hrange, ite_not]
  split
  · next hlatitude =>
    split
    · next hlongitude =>
      split
      · next helevation => exact iff_of_true rfl ⟨hlatitude, hlongitude, helevation⟩
      · next helevation => exact iff_of_false nofun fun h => helevation h.elevation
    · next hlongitude => exact iff_of_false nofun fun h => hlongitude h.longitude
  · next hlatitude => exact iff_of_false nofun fun h => hlatitude h.latitude

/-- What a query is answered: the site that it means if that is usable, what is wrong with the site
if it is not, and that there is none. -/
inductive Answers (given : List Site) (query : String) : Except MetadataError Site → Prop where
  | usable {site : Site} :
      Means given (upperCase (trimBlanks query)) site → IsUsable site →
      Answers given query (.ok site)
  | unusable {site : Site} {fault : SiteFault} :
      Means given (upperCase (trimBlanks query)) site → ¬IsUsable site →
      site.fault? = some fault →
      Answers given query (.error (.invalidSite site.id fault))
  | unknown :
      (∀ site, ¬Means given (upperCase (trimBlanks query)) site) →
      Answers given query (.error (.siteNotFound query))

theorem answers_lookup (h : Reached given catalog) {query : String} (hquery : IsAscii query) :
    Answers given query (catalog.lookup query) := by
  have hmeans : ∀ site, catalog.find? query = some site ↔
      Means given (upperCase (trimBlanks query)) site := fun _ => find?_eq_some_iff h hquery
  unfold lookup
  split
  next hnone =>
    refine .unknown fun site hsite => ?_
    rw [(hmeans site).2 hsite] at hnone
    cases hnone
  next site hsite =>
    unfold Site.validate
    split
    next fault hfault =>
      refine .unusable ((hmeans site).1 hsite) ?_ hfault
      rw [← fault?_eq_none_iff, hfault]
      exact nofun
    next hnone => exact .usable ((hmeans site).1 hsite) ((fault?_eq_none_iff site).1 hnone)

/-! ## Catalogs that answer the same -/

structure SameAnswers (a b : SiteCatalog) : Prop where
  size_eq : a.size = b.size
  ids_eq : a.ids = b.ids
  get?_eq : ∀ id, a.get? id = b.get? id
  lookup_eq : ∀ query, a.lookup query = b.lookup query

/-- What is held under ids decides every answer. -/
theorem sameAnswers_of_get? {a b : SiteCatalog} (ha : a.HasDistinctIds) (hb : b.HasDistinctIds)
    (hget : ∀ id, a.get? id = b.get? id) : SameAnswers a b := by
  have hmem : ∀ site, site ∈ a.sites ↔ site ∈ b.sites := by
    intro site
    rw [mem_sites_iff ha, mem_sites_iff hb, hget]
  have hperm : a.sites.Perm b.sites :=
    (List.perm_ext_iff_of_nodup (List.Nodup.of_map _ ha) (List.Nodup.of_map _ hb)).2 hmem
  have hending : ∀ id, a.onlyEndingWith? id = b.onlyEndingWith? id := by
    intro id
    apply Option.ext
    intro site
    simp only [onlyEndingWith?_eq_some_iff ha, onlyEndingWith?_eq_some_iff hb, hmem]
  refine ⟨hperm.length_eq, ?_, hget, fun query => ?_⟩
  · apply eq_mergeSort_key hb.nodup_keys
    · exact (List.mergeSort_perm _ _).trans (hperm.map _)
    · exact ha.pairwise_ids
  · simp only [lookup, find?, hget, hending]

/-- Sites of different ids may be given in either order. -/
theorem filter_swap {a b : Site}
    (hab : upperCase (trimBlanks a.id) ≠ upperCase (trimBlanks b.id)) (front back : List Site)
    (id : String) :
    ((front ++ a :: b :: back).filter fun site => upperCase (trimBlanks site.id) == id) =
      (front ++ b :: a :: back).filter fun site => upperCase (trimBlanks site.id) == id := by
  rw [List.filter_append, List.filter_append]
  by_cases ha : upperCase (trimBlanks a.id) = id
  · have hb : upperCase (trimBlanks b.id) ≠ id := fun hb => hab (ha.trans hb.symm)
    simp [ha, hb]
  · simp [List.filter_cons, ha]

/-- Whatever sites fill a catalog, and in whatever order it keeps them, it holds the last of each
id, and a query is answered by the site that it means.  Neither the order that it keeps nor the
order in which different ids are filled makes a difference. -/
theorem lookup_well_defined (given : List Site) :
    Reached given (ofSites given) ∧
    ∀ catalog, Reached given catalog →
      HoldsLast given catalog ∧
      (∀ query, IsAscii query → Answers given query (catalog.lookup query)) ∧
      ∀ other otherCatalog, Reached other otherCatalog →
        (∀ id, (other.filter fun site => upperCase (trimBlanks site.id) == id) =
          given.filter fun site => upperCase (trimBlanks site.id) == id) →
        SameAnswers otherCatalog catalog := by
  refine ⟨reached_ofSites given, fun catalog h => ⟨h.holdsLast, fun _ => answers_lookup h, ?_⟩⟩
  intro other otherCatalog hother hfilter
  apply sameAnswers_of_get? hother.hasDistinctIds h.hasDistinctIds
  intro id
  rw [hother.get?_eq, h.get?_eq, lastUnder?, hfilter, lastUnder?]

/-- A site that is replaced by one of the same id, spelled another way, and a site that is found by
the three letters that only its id ends with. -/
theorem lookup_well_defined_replaced :
    let old : Site := .unnamed " ktlx" 35.0 (-97.0) 370.0
    let new : Site := .unnamed "KTLX" 35.3331 (-97.2778) 370.0
    let north : Site := .unnamed "PAHG" 60.7258 (-151.3514) 74.0
    ∃ catalog, Reached [old, north, new] catalog ∧ HoldsLast [old, north, new] catalog ∧
      catalog.size = 2 ∧ catalog.get? "KTLX" = some new ∧
      catalog.lookup " ktlx" = .ok new ∧ catalog.lookup "ahg" = .ok north ∧
      Answers [old, north, new] "ahg" (catalog.lookup "ahg") ∧
      SameAnswers (ofSites [old, new, north]) catalog := by
  intro old new north
  obtain ⟨hreached, hall⟩ := lookup_well_defined [old, north, new]
  obtain ⟨hholds, hanswers, hsame⟩ := hall _ hreached
  refine ⟨_, hreached, hholds, by decide +kernel, by decide +kernel, by decide +kernel,
    by decide +kernel, hanswers "ahg" (by decide), hsame _ _ (reached_ofSites _) ?_⟩
  exact filter_swap (by decide +kernel) [old] []

end WeatherRadar.SiteCatalog
