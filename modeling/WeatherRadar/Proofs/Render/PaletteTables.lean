import Mathlib.Data.List.Induction
import WeatherRadar.Proofs.Keys
import WeatherRadar.Render.PaletteTable
/-!
# Tables of palettes

A table is filled in the order of the keys of its definitions, one product after another.  After
some definitions that agree (`Consistent`) it holds what they assign (`foldlM_add_assigned`), and
the first definition that does not agree with those before it ends the filling
(`foldlM_add_offends`).  The order of the keys is the same however the definitions are ordered, so
the table and the error do not depend on it (`ofDefinitions_order_free`).
-/

namespace WeatherRadar.Render

/-- The products that some definitions list, each as often as it is listed. -/
def listed (definitions : List (String × PaletteDefinition)) : List ProductCode :=
  definitions.flatMap (·.2.products)

/-- Every definition has a palette, and no product is listed twice. -/
structure Consistent (definitions : List (String × PaletteDefinition)) : Prop where
  compiles : ∀ entry ∈ definitions, ∃ palette, entry.2.compile = .ok palette
  nodup : (listed definitions).Nodup

/-- What is wrong with a definition that comes after others: it has no palette, or else the first of
its products that is listed already has one. -/
inductive Offends (earlier : List (String × PaletteDefinition)) (definition : PaletteDefinition) :
    RenderError → Prop where
  | invalid {fault : RenderError} :
      definition.compile = .error fault → Offends earlier definition fault
  | taken {palette : Palette} {front back : List ProductCode} {code : ProductCode} :
      definition.compile = .ok palette → definition.products = front ++ code :: back →
      (listed earlier ++ front).Nodup → code ∈ listed earlier ++ front →
      Offends earlier definition (.invalidPalette definition.name (.productTaken code))

/-- A table has for every product the palette of the one definition that lists it. -/
structure IsTableOf (definitions : List (String × PaletteDefinition)) (table : PaletteTable) :
    Prop where
  get?_eq_some_iff : ∀ code palette, table.get? code = some palette ↔
    ∃ entry ∈ definitions, code ∈ entry.2.products ∧ entry.2.compile = .ok palette
  /-- Only one definition lists a product. -/
  eq_of_mem : ∀ a ∈ definitions, ∀ b ∈ definitions, ∀ code,
    code ∈ a.2.products → code ∈ b.2.products → a = b
  get?_eq_none_iff : ∀ code, table.get? code = none ↔ code ∉ listed definitions
  ascending : table.products.Pairwise (·.toInt < ·.toInt)
  mem_products : ∀ code, code ∈ table.products ↔ code ∈ listed definitions

/-- In the order of the keys, an entry is the first whose definition does not agree with those
before it. -/
structure FirstOffends (definitions earlier : List (String × PaletteDefinition))
    (entry : String × PaletteDefinition) (later : List (String × PaletteDefinition))
    (fault : RenderError) : Prop where
  perm : (earlier ++ entry :: later).Perm definitions
  ascending : (earlier ++ entry :: later).Pairwise (·.1 < ·.1)
  consistent : Consistent earlier
  offends : Offends earlier entry.2 fault

@[simp]
theorem listed_append (front back : List (String × PaletteDefinition)) :
    listed (front ++ back) = listed front ++ listed back := List.flatMap_append

@[simp]
theorem listed_singleton (entry : String × PaletteDefinition) :
    listed [entry] = entry.2.products := List.flatMap_singleton ..

theorem Consistent.perm {a b : List (String × PaletteDefinition)} (h : Consistent a)
    (hperm : a.Perm b) : Consistent b where
  compiles entry hentry := h.compiles entry (hperm.mem_iff.2 hentry)
  nodup := (hperm.flatMap_right _).nodup_iff.1 h.nodup

theorem Consistent.of_append {front back : List (String × PaletteDefinition)}
    (h : Consistent (front ++ back)) : Consistent front where
  compiles entry hentry := h.compiles entry (List.mem_append_left back hentry)
  nodup := by
    have hnodup := h.nodup
    rw [listed_append] at hnodup
    exact hnodup.of_append_left

theorem Consistent.concat {definitions : List (String × PaletteDefinition)}
    (h : Consistent definitions) {entry : String × PaletteDefinition} {palette : Palette}
    (hpalette : entry.2.compile = .ok palette)
    (hnodup : (listed definitions ++ entry.2.products).Nodup) :
    Consistent (definitions ++ [entry]) where
  compiles := by
    intro other hother
    obtain hother | hother := List.mem_append.1 hother
    · exact h.compiles other hother
    · rw [List.mem_singleton.1 hother]
      exact ⟨palette, hpalette⟩
  nodup := by rwa [listed_append, listed_singleton]

theorem Consistent.eq_of_mem {definitions : List (String × PaletteDefinition)}
    (h : Consistent definitions) {a b : String × PaletteDefinition} (ha : a ∈ definitions)
    (hb : b ∈ definitions) {code : ProductCode} (hacode : code ∈ a.2.products)
    (hbcode : code ∈ b.2.products) : a = b := by
  have hsymm : Std.Symm (Function.onFun List.Disjoint
      fun entry : String × PaletteDefinition => entry.2.products) :=
    ⟨fun _ _ h _ ha hb => h hb ha⟩
  by_contra hne
  exact (List.nodup_flatMap.1 h.nodup).2.forall ha hb hne hacode hbcode

theorem IsTableOf.perm {a b : List (String × PaletteDefinition)} {table : PaletteTable}
    (h : IsTableOf a table) (hperm : a.Perm b) : IsTableOf b table := by
  have hlisted : ∀ code, code ∈ listed a ↔ code ∈ listed b := fun code =>
    (hperm.flatMap_right _).mem_iff
  refine ⟨fun code palette => ?_, fun a ha b hb => ?_, fun code => ?_, h.ascending, fun code => ?_⟩
  · simp only [h.get?_eq_some_iff, hperm.mem_iff]
  · exact h.eq_of_mem a (hperm.mem_iff.2 ha) b (hperm.mem_iff.2 hb)
  · rw [h.get?_eq_none_iff, hlisted]
  · rw [h.mem_products, hlisted]

/-- Products are all new, or one of them is the first that is not. -/
theorem nodup_or_first_taken {taken : List ProductCode} (htaken : taken.Nodup)
    (codes : List ProductCode) :
    (taken ++ codes).Nodup ∨ ∃ front code back, codes = front ++ code :: back ∧
      (taken ++ front).Nodup ∧ code ∈ taken ++ front := by
  induction codes generalizing taken with
  | nil => exact Or.inl (by rwa [List.append_nil])
  | cons code rest ih =>
      by_cases hmem : code ∈ taken
      · exact Or.inr ⟨[], code, rest, rfl, by rwa [List.append_nil], by rwa [List.append_nil]⟩
      · have hmore : (taken ++ [code]).Nodup := by
          rw [List.nodup_append_comm]
          exact List.nodup_cons.2 ⟨hmem, htaken⟩
        obtain hnodup | ⟨front, next, back, rfl, hfront, hnext⟩ := ih hmore
        · exact Or.inl (by rwa [List.append_assoc] at hnodup)
        · rw [List.append_assoc] at hfront hnext
          exact Or.inr ⟨code :: front, next, back, rfl, hfront, hnext⟩

/-- Definitions agree, or one of them is the first that does not agree with those before it. -/
theorem consistent_or_offends (definitions : List (String × PaletteDefinition)) :
    Consistent definitions ∨ ∃ earlier entry later fault,
      definitions = earlier ++ entry :: later ∧ Consistent earlier ∧
      Offends earlier entry.2 fault := by
  induction definitions using List.reverseRecOn with
  | nil => exact Or.inl ⟨by simp, List.nodup_nil⟩
  | append_singleton front last ih =>
      obtain hfront | ⟨earlier, entry, later, fault, rfl, hearlier, hoffends⟩ := ih
      · cases hcompile : last.2.compile with
        | error fault => exact Or.inr ⟨front, last, [], fault, rfl, hfront, .invalid hcompile⟩
        | ok palette =>
            obtain hnodup | ⟨codes, code, back, hproducts, hcodes, htaken⟩ :=
              nodup_or_first_taken hfront.nodup last.2.products
            · exact Or.inl (hfront.concat hcompile hnodup)
            · exact Or.inr ⟨front, last, [], _, rfl, hfront,
                .taken hcompile hproducts hcodes htaken⟩
      · exact Or.inr ⟨earlier, entry, later ++ [last], fault,
          by rw [List.append_assoc, List.cons_append], hearlier, hoffends⟩

namespace PaletteTable

/-! ## Claiming products -/

/-- A table that was given palettes for some products, one after another. -/
def filledWith (given : List (ProductCode × Palette)) : PaletteTable := ⟨given.reverse⟩

theorem get?_filledWith_isSome_iff {given : List (ProductCode × Palette)} {code : ProductCode} :
    ((filledWith given).get? code).isSome = true ↔ code ∈ given.map Prod.fst := by
  simp [get?, filledWith]

/-- A product that has no palette yet takes one. -/
theorem claim_of_not_mem (definition : PaletteDefinition) (palette : Palette)
    {given : List (ProductCode × Palette)} {code : ProductCode}
    (hfree : code ∉ given.map Prod.fst) :
    claim definition palette (filledWith given) code =
      .ok (filledWith (given ++ [(code, palette)])) := by
  have hkept : given.reverse.filter (·.1 != code) = given.reverse := by
    rw [List.filter_eq_self]
    intro entry hentry
    rw [bne_iff_ne]
    rintro rfl
    exact hfree (List.mem_map_of_mem (List.mem_reverse.1 hentry))
  rw [claim, if_neg (mt get?_filledWith_isSome_iff.1 hfree), insert, filledWith, hkept,
    filledWith, List.reverse_concat]

theorem claim_of_mem (definition : PaletteDefinition) (palette : Palette)
    {given : List (ProductCode × Palette)} {code : ProductCode}
    (htaken : code ∈ given.map Prod.fst) :
    claim definition palette (filledWith given) code =
      .error (.invalidPalette definition.name (.productTaken code)) := by
  rw [claim, if_pos (get?_filledWith_isSome_iff.2 htaken)]

theorem foldlM_claim (definition : PaletteDefinition) (palette : Palette)
    {given : List (ProductCode × Palette)} {codes : List ProductCode}
    (hfree : (given.map Prod.fst ++ codes).Nodup) :
    codes.foldlM (claim definition palette) (filledWith given) =
      .ok (filledWith (given ++ codes.map (·, palette))) := by
  induction codes generalizing given with
  | nil => rw [List.map_nil, List.append_nil]; rfl
  | cons code rest ih =>
      have hnew : code ∉ given.map Prod.fst := fun htaken =>
        List.disjoint_of_nodup_append hfree htaken List.mem_cons_self
      have hrest : ((given ++ [(code, palette)]).map Prod.fst ++ rest).Nodup := by
        simpa using hfree
      rw [List.foldlM_cons, claim_of_not_mem definition palette hnew]
      refine (ih hrest).trans ?_
      rw [List.append_assoc, List.singleton_append, List.map_cons]

theorem foldlM_claim_taken (definition : PaletteDefinition) (palette : Palette)
    {given : List (ProductCode × Palette)} {front : List ProductCode} {code : ProductCode}
    (hfree : (given.map Prod.fst ++ front).Nodup) (htaken : code ∈ given.map Prod.fst ++ front)
    (back : List ProductCode) :
    (front ++ code :: back).foldlM (claim definition palette) (filledWith given) =
      .error (.invalidPalette definition.name (.productTaken code)) := by
  have hmem : code ∈ (given ++ front.map (·, palette)).map Prod.fst := by simpa using htaken
  rw [List.foldlM_append, foldlM_claim definition palette hfree]
  simp only [bind, Except.bind, List.foldlM_cons, claim_of_mem definition palette hmem]

/-! ## Adding definitions -/

/-- What definitions with palettes assign to the products that they list. -/
def assignments (definitions : List (String × PaletteDefinition)) :
    List (ProductCode × Palette) :=
  definitions.flatMap fun entry =>
    match entry.2.compile with
    | .ok palette => entry.2.products.map (·, palette)
    | .error _ => []

theorem mem_assignments {definitions : List (String × PaletteDefinition)} {code : ProductCode}
    {palette : Palette} : (code, palette) ∈ assignments definitions ↔
      ∃ entry ∈ definitions, code ∈ entry.2.products ∧ entry.2.compile = .ok palette := by
  rw [assignments, List.mem_flatMap]
  refine exists_congr fun entry => and_congr_right fun _ => ?_
  cases hcompile : entry.2.compile with
  | error fault => simp
  | ok found => simp [eq_comm]

theorem codes_assignments {definitions : List (String × PaletteDefinition)}
    (h : Consistent definitions) :
    (assignments definitions).map Prod.fst = listed definitions := by
  rw [assignments, listed, List.map_flatMap]
  refine List.flatMap_congr fun entry hentry => ?_
  obtain ⟨palette, hpalette⟩ := h.compiles entry hentry
  simp [hpalette, Function.comp_def]

theorem assignments_concat (definitions : List (String × PaletteDefinition))
    {entry : String × PaletteDefinition} {palette : Palette}
    (hpalette : entry.2.compile = .ok palette) :
    assignments (definitions ++ [entry]) =
      assignments definitions ++ entry.2.products.map (·, palette) := by
  simp [assignments, hpalette]

theorem add_of_compile (table : PaletteTable) {definition : PaletteDefinition} {palette : Palette}
    (hcompile : definition.compile = .ok palette) :
    table.add definition = definition.products.foldlM (claim definition palette) table := by
  rw [add, hcompile]
  rfl

theorem add_of_consistent {earlier : List (String × PaletteDefinition)}
    {entry : String × PaletteDefinition} (h : Consistent (earlier ++ [entry])) :
    (filledWith (assignments earlier)).add entry.2 =
      .ok (filledWith (assignments (earlier ++ [entry]))) := by
  obtain ⟨palette, hcompile⟩ := h.compiles entry (by simp)
  have hfree := h.nodup
  rw [listed_append, listed_singleton, ← codes_assignments h.of_append] at hfree
  rw [add_of_compile _ hcompile, foldlM_claim entry.2 palette hfree,
    assignments_concat earlier hcompile]

theorem add_of_offends {earlier : List (String × PaletteDefinition)}
    {definition : PaletteDefinition} {fault : RenderError} (hearlier : Consistent earlier)
    (h : Offends earlier definition fault) :
    (filledWith (assignments earlier)).add definition = .error fault := by
  cases h with
  | invalid hcompile =>
      rw [add, hcompile]
      rfl
  | @taken palette front back code hcompile hproducts hfront htaken =>
      rw [← codes_assignments hearlier] at hfront htaken
      rw [add_of_compile _ hcompile, hproducts,
        foldlM_claim_taken definition palette hfront htaken]

/-- Definitions that agree give their palettes to their products, in order. -/
theorem foldlM_add_assigned {definitions : List (String × PaletteDefinition)}
    (h : Consistent definitions) :
    definitions.foldlM (fun table entry => table.add entry.2) empty =
      .ok (filledWith (assignments definitions)) := by
  induction definitions using List.reverseRecOn with
  | nil => rfl
  | append_singleton earlier entry ih =>
      rw [List.foldlM_append, ih h.of_append]
      simp only [bind, Except.bind, List.foldlM_cons, List.foldlM_nil,
        add_of_consistent h]
      rfl

/-- A definition that offends ends the filling. -/
theorem foldlM_add_offends {earlier : List (String × PaletteDefinition)}
    {entry : String × PaletteDefinition} {fault : RenderError} (hearlier : Consistent earlier)
    (h : Offends earlier entry.2 fault) (later : List (String × PaletteDefinition)) :
    (earlier ++ entry :: later).foldlM (fun table entry => table.add entry.2) empty =
      .error fault := by
  rw [List.foldlM_append, foldlM_add_assigned hearlier]
  simp only [bind, Except.bind, List.foldlM_cons, add_of_offends hearlier h]

theorem get?_filledWith {given : List (ProductCode × Palette)} {code : ProductCode}
    {palette : Palette} (hcodes : (given.map Prod.fst).Nodup) :
    (filledWith given).get? code = some palette ↔ (code, palette) ∈ given := by
  have hfind : ∀ entry, given.reverse.find? (·.1 == code) = some entry ↔
      entry ∈ given ∧ entry.1 = code := by
    intro entry
    rw [find?_key_perm hcodes (List.reverse_perm given), find?_key_eq_some_iff hcodes]
  rw [get?, filledWith, Option.map_eq_some_iff]
  constructor
  · rintro ⟨entry, hfound, rfl⟩
    obtain ⟨hmem, rfl⟩ := (hfind entry).1 hfound
    exact hmem
  · exact fun hmem => ⟨_, (hfind _).2 ⟨hmem, rfl⟩, rfl⟩

theorem isTableOf_filledWith {definitions : List (String × PaletteDefinition)}
    (h : Consistent definitions) :
    IsTableOf definitions (filledWith (assignments definitions)) := by
  have hcodes := codes_assignments h
  have hentries : (filledWith (assignments definitions)).entries.map (·.1) =
      (listed definitions).reverse := by
    rw [filledWith, List.map_reverse, hcodes]
  have hnodup : ((assignments definitions).map Prod.fst).Nodup := by
    rw [hcodes]
    exact h.nodup
  refine ⟨fun code palette => ?_, fun a ha b hb code => h.eq_of_mem ha hb, fun code => ?_, ?_,
    fun code => ?_⟩
  · rw [get?_filledWith hnodup, mem_assignments]
  · rw [← hcodes, ← get?_filledWith_isSome_iff, Option.not_isSome_iff_eq_none]
  · apply pairwise_mergeSort_key
    rw [hentries, List.nodup_map_iff fun _ _ => Int16.toInt_inj.1, List.nodup_reverse]
    exact h.nodup
  · rw [products, List.mem_mergeSort, hentries, List.mem_reverse]

/-! ## The order of the keys -/

/-- The definitions in the order in which they are taken. -/
def inKeyOrder (definitions : List (String × PaletteDefinition)) :
    List (String × PaletteDefinition) := definitions.mergeSort fun a b => a.1 ≤ b.1

theorem inKeyOrder_perm (definitions : List (String × PaletteDefinition)) :
    (inKeyOrder definitions).Perm definitions := List.mergeSort_perm _ _

theorem pairwise_inKeyOrder {definitions : List (String × PaletteDefinition)}
    (hkeys : (definitions.map Prod.fst).Nodup) :
    (inKeyOrder definitions).Pairwise (·.1 < ·.1) := pairwise_mergeSort_key hkeys

/-- There is one order of the keys. -/
theorem eq_inKeyOrder {definitions order : List (String × PaletteDefinition)}
    (hkeys : (definitions.map Prod.fst).Nodup) (hperm : order.Perm definitions)
    (horder : order.Pairwise (·.1 < ·.1)) : order = inKeyOrder definitions :=
  eq_mergeSort_key hkeys hperm horder

theorem ofDefinitions_eq (definitions : List (String × PaletteDefinition)) :
    ofDefinitions definitions =
      (inKeyOrder definitions).foldlM (fun table entry => table.add entry.2) empty := rfl

theorem ofDefinitions_of_consistent {definitions : List (String × PaletteDefinition)}
    (h : Consistent definitions) :
    ofDefinitions definitions = .ok (filledWith (assignments (inKeyOrder definitions))) := by
  rw [ofDefinitions_eq, foldlM_add_assigned (h.perm (inKeyOrder_perm definitions).symm)]

theorem ofDefinitions_of_offends {definitions earlier later : List (String × PaletteDefinition)}
    {entry : String × PaletteDefinition} {fault : RenderError}
    (hkeys : (definitions.map Prod.fst).Nodup)
    (h : FirstOffends definitions earlier entry later fault) :
    ofDefinitions definitions = .error fault := by
  rw [ofDefinitions_eq, ← eq_inKeyOrder hkeys h.perm h.ascending,
    foldlM_add_offends h.consistent h.offends]

theorem consistent_or_firstOffends {definitions : List (String × PaletteDefinition)}
    (hkeys : (definitions.map Prod.fst).Nodup) :
    Consistent definitions ∨
      ∃ earlier entry later fault, FirstOffends definitions earlier entry later fault := by
  have hperm := inKeyOrder_perm definitions
  have hascending := pairwise_inKeyOrder hkeys
  obtain h | ⟨earlier, entry, later, fault, hsplit, hearlier, hoffends⟩ :=
    consistent_or_offends (inKeyOrder definitions)
  · exact Or.inl (h.perm hperm)
  · rw [hsplit] at hperm hascending
    exact Or.inr ⟨earlier, entry, later, fault, hperm, hascending, hearlier, hoffends⟩

/-- However keyed definitions are ordered, they give the same table or the same error.  They give a
table exactly if they agree, and it has for every product the palette of the definition that lists
it.  The error is that of the first definition, in the order of the keys, that does not agree with
those before it. -/
theorem ofDefinitions_order_free {definitions : List (String × PaletteDefinition)}
    (hkeys : (definitions.map Prod.fst).Nodup) :
    (∀ order : List (String × PaletteDefinition), order.Perm definitions →
      ofDefinitions order = ofDefinitions definitions) ∧
    ((∃ table, ofDefinitions definitions = .ok table) ↔ Consistent definitions) ∧
    (∀ table, ofDefinitions definitions = .ok table → IsTableOf definitions table) ∧
    ∀ fault, ofDefinitions definitions = .error fault ↔
      ∃ earlier entry later, FirstOffends definitions earlier entry later fault := by
  have hcases := consistent_or_firstOffends hkeys
  have hperm := inKeyOrder_perm definitions
  have hconsistent : ∀ table, ofDefinitions definitions = .ok table → Consistent definitions := by
    intro table htable
    obtain h | ⟨earlier, entry, later, fault, h⟩ := hcases
    · exact h
    · rw [ofDefinitions_of_offends hkeys h] at htable
      cases htable
  refine ⟨?_, ⟨?_, ?_⟩, ?_, ?_⟩
  · intro order horder
    have hsorted := pairwise_inKeyOrder ((horder.map Prod.fst).nodup_iff.2 hkeys)
    rw [ofDefinitions_eq, ofDefinitions_eq,
      eq_inKeyOrder hkeys ((inKeyOrder_perm order).trans horder) hsorted]
  · rintro ⟨table, htable⟩
    exact hconsistent table htable
  · intro h
    exact ⟨_, ofDefinitions_of_consistent h⟩
  · intro table htable
    have h := hconsistent table htable
    rw [ofDefinitions_of_consistent h] at htable
    rw [← Except.ok.inj htable]
    exact (isTableOf_filledWith (h.perm hperm.symm)).perm hperm
  · intro fault
    constructor
    · intro hfault
      obtain h | ⟨earlier, entry, later, found, h⟩ := hcases
      · rw [ofDefinitions_of_consistent h] at hfault
        cases hfault
      · rw [ofDefinitions_of_offends hkeys h] at hfault
        rw [← Except.error.inj hfault]
        exact ⟨earlier, entry, later, h⟩
    · rintro ⟨earlier, entry, later, h⟩
      exact ofDefinitions_of_offends hkeys h

/-- The palettes that are used when no others are configured, in the reverse order. -/
theorem ofDefinitions_order_free_standard :
    (standardDefinitions.map Prod.fst).Nodup ∧
      ofDefinitions standardDefinitions.reverse = ofDefinitions standardDefinitions ∧
      ∃ table, ofDefinitions standardDefinitions = .ok table ∧
        IsTableOf standardDefinitions table := by
  have hkeys : (standardDefinitions.map Prod.fst).Nodup := by decide
  have hcompiles : (standardDefinitions.all fun entry =>
      entry.2.compile.toOption.isSome) = true := by
    decide +kernel
  have h : Consistent standardDefinitions := by
    refine ⟨fun entry hentry => ?_, by decide⟩
    have hsome := List.all_eq_true.1 hcompiles entry hentry
    cases hcompile : entry.2.compile with
    | error fault =>
        rw [hcompile] at hsome
        cases hsome
    | ok palette => exact ⟨palette, rfl⟩
  obtain ⟨hreorder, hsucceeds, htable, -⟩ := ofDefinitions_order_free hkeys
  obtain ⟨table, hok⟩ := hsucceeds.2 h
  exact ⟨hkeys, hreorder _ (List.reverse_perm _), table, hok, htable table hok⟩

end PaletteTable

end WeatherRadar.Render
