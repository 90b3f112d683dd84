import Mathlib.Data.List.Nodup
import WeatherRadar.Pipeline.Source
import WeatherRadar.Proofs.Text.Substrings
/-!
# The newest file of a product

Of files with distinct paths one is the last by the times of their changes, and by their paths where
these are equal.  A walk keeps the last file that it has met (`latest?_cases`), so that it finds the
same file in whatever order it meets them.
-/

namespace WeatherRadar.Pipeline

open WeatherRadar.Level3

/-! ## The order of files -/

namespace StoredFile

variable {a b c file other : StoredFile} {files : List StoredFile}

/-- Nanoseconds from the beginning of 1970 to the change of a file, none if that cannot be told. -/
def time (file : StoredFile) : Int := (file.changed?.map (·.nanoseconds)).getD 0

/-- A file was changed before another one, or together with it and has a path that comes before. -/
def Precedes (file other : StoredFile) : Prop :=
  file.time < other.time ∨ file.time = other.time ∧ file.path.names < other.path.names

theorem changed_eq (file : StoredFile) : file.changed = ⟨file.time⟩ := by
  unfold changed time
  cases file.changed? <;> rfl

theorem isLaterThan_iff : file.isLaterThan other = true ↔ other.Precedes file := by
  have htime : other.changed < file.changed ↔ other.time < file.time := by
    rw [changed_eq, changed_eq]
    exact Iff.rfl
  have hsame : other.changed = file.changed ↔ other.time = file.time := by
    rw [changed_eq, changed_eq, FileTime.mk.injEq]
  have hpath : other.path < file.path ↔ other.path.names < file.path.names := Iff.rfl
  rw [isLaterThan, Bool.or_eq_true, Bool.and_eq_true, decide_eq_true_eq, decide_eq_true_eq,
    beq_iff_eq, htime, hsame, hpath, Precedes]

theorem Precedes.trans (hab : a.Precedes b) (hbc : b.Precedes c) : a.Precedes c := by
  obtain hab | ⟨hab, hpath⟩ := hab
  · obtain hbc | ⟨hbc, -⟩ := hbc
    · exact Or.inl (Int.lt_trans hab hbc)
    · exact Or.inl (hbc ▸ hab)
  · obtain hbc | ⟨hbc, hpath'⟩ := hbc
    · exact Or.inl (hab ▸ hbc)
    · exact Or.inr ⟨hab.trans hbc, List.lt_trans hpath hpath'⟩

theorem not_precedes_self (file : StoredFile) : ¬file.Precedes file := by
  rintro (hlt | ⟨-, hlt⟩)
  · exact Int.lt_irrefl _ hlt
  · exact List.lt_irrefl _ hlt

theorem precedes_or_precedes (hpath : a.path ≠ b.path) : a.Precedes b ∨ b.Precedes a := by
  obtain hlt | htime | hlt := Int.lt_trichotomy a.time b.time
  · exact Or.inl (Or.inl hlt)
  · obtain hlt | heq | hlt := Std.lt_trichotomy a.path.names b.path.names
    · exact Or.inl (Or.inr ⟨htime, hlt⟩)
    · exact absurd (congrArg StoredPath.mk heq) hpath
    · exact Or.inr (Or.inr ⟨htime.symm, hlt⟩)
  · exact Or.inr (Or.inl hlt)

/-! ## The last of some files -/

/-- A file is one of some files, and the others precede it. -/
structure IsNewest (files : StoredFile → Prop) (file : StoredFile) : Prop where
  mem : files file
  precedes : ∀ other, files other → other = file ∨ other.Precedes file

theorem IsNewest.unique {files : StoredFile → Prop} (ha : IsNewest files a)
    (hb : IsNewest files b) : a = b := by
  obtain heq | hab := hb.precedes a ha.mem
  · exact heq
  · obtain heq | hba := ha.precedes b hb.mem
    · exact heq.symm
    · exact absurd (hab.trans hba) a.not_precedes_self

theorem mem_concat : other ∈ files ++ [file] ↔ other ∈ files ∨ other = file := by
  rw [List.mem_append, List.mem_singleton]

/-- One more file is the last one now, or the last one is what it was. -/
theorem IsNewest.concat {best : StoredFile} (h : IsNewest (· ∈ files) best)
    (hpath : file.path ≠ best.path) :
    IsNewest (· ∈ files ++ [file]) (if file.isLaterThan best then file else best) := by
  by_cases hlater : best.Precedes file
  · rw [if_pos (isLaterThan_iff.2 hlater)]
    refine ⟨mem_concat.2 (Or.inr rfl), fun other hother => ?_⟩
    obtain hmem | heq := mem_concat.1 hother
    · obtain rfl | hprecedes := h.precedes other hmem
      · exact Or.inr hlater
      · exact Or.inr (hprecedes.trans hlater)
    · exact Or.inl heq
  · rw [if_neg fun hlt => hlater (isLaterThan_iff.1 hlt)]
    refine ⟨mem_concat.2 (Or.inl h.mem), fun other hother => ?_⟩
    obtain hmem | rfl := mem_concat.1 hother
    · exact h.precedes other hmem
    · exact Or.inr ((precedes_or_precedes hpath).resolve_right hlater)

/-- What a walk over files with distinct paths has found. -/
theorem latest?_cases (hpaths : (files.map (·.path)).Nodup) :
    (files = [] ∧ latest? files = none) ∨
      ∃ file, latest? files = some file ∧ IsNewest (· ∈ files) file := by
  induction files using List.reverseRecOn with
  | nil => exact Or.inl ⟨rfl, rfl⟩
  | append_singleton files file ih =>
      rw [List.map_append, List.map_singleton, List.nodup_append_comm, List.singleton_append,
        List.nodup_cons] at hpaths
      obtain ⟨hnew, hpaths⟩ := hpaths
      rw [latest?, List.foldl_concat, ← latest?]
      obtain ⟨rfl, hnone⟩ | ⟨best, hsome, hbest⟩ := ih hpaths
      · rw [hnone]
        exact Or.inr ⟨file, rfl, by simp, by simp⟩
      · rw [hsome]
        have hpath : file.path ≠ best.path :=
          fun heq => hnew (heq ▸ List.mem_map_of_mem hbest.mem)
        exact Or.inr ⟨_, (apply_ite some _ _ _).symm, hbest.concat hpath⟩

theorem latest?_eq_some_iff (hpaths : (files.map (·.path)).Nodup) :
    latest? files = some file ↔ IsNewest (· ∈ files) file := by
  obtain ⟨rfl, hnone⟩ | ⟨best, hsome, hbest⟩ := latest?_cases hpaths
  · rw [hnone]
    exact iff_of_false (Option.some_ne_none _).symm fun h => List.not_mem_nil h.mem
  · rw [hsome, Option.some.injEq]
    constructor
    · rintro rfl
      exact hbest
    · exact hbest.unique

theorem latest?_eq_none_iff (hpaths : (files.map (·.path)).Nodup) :
    latest? files = none ↔ files = [] := by
  obtain ⟨rfl, hnone⟩ | ⟨best, hsome, hbest⟩ := latest?_cases hpaths
  · exact iff_of_true hnone rfl
  · rw [hsome]
    exact iff_of_false (Option.some_ne_none best) (List.ne_nil_of_mem hbest.mem)

theorem latest?_perm {order : List StoredFile} (hpaths : (files.map (·.path)).Nodup)
    (hperm : order.Perm files) : latest? order = latest? files := by
  have hsame : (· ∈ order) = (· ∈ files) := funext fun file => propext hperm.mem_iff
  apply Option.ext
  intro file
  rw [latest?_eq_some_iff hpaths, latest?_eq_some_iff ((hperm.map _).nodup_iff.2 hpaths), hsame]

end StoredFile

/-! ## Names that fit -/

/-- A file name has in it, in upper case, the category of a product and a site, or for a site of
four bytes what follows its first character if that is one byte. -/
def IsNamedFor (kind : ProductKind) (site name : String) : Prop :=
  kind.category.toList <:+: (upperCase name).toList ∧
    (site.toList <:+: (upperCase name).toList ∨
      ∃ first rest, site.toList = first :: rest ∧ site.utf8ByteSize = 4 ∧ first.utf8Size = 1 ∧
        rest <:+: (upperCase name).toList)

theorem shortSite_occurs_iff {site : String} {text : List Char} :
    site.toList <:+: text ∨ (shortSite site).toList <:+: text ↔
      site.toList <:+: text ∨ ∃ first rest, site.toList = first :: rest ∧ site.utf8ByteSize = 4 ∧
        first.utf8Size = 1 ∧ rest <:+: text := by
  unfold shortSite
  split
  next first rest hsite =>
    split
    next hshort =>
      obtain ⟨hbytes, hfirst⟩ := Bool.and_eq_true_iff.1 hshort
      rw [String.toList_ofList, hsite]
      simp [beq_iff_eq.1 hbytes, beq_iff_eq.1 hfirst]
    next hlong =>
      rw [Bool.and_eq_true, beq_iff_eq, beq_iff_eq] at hlong
      rw [hsite, or_self]
      refine (or_iff_left ?_).symm
      rintro ⟨_, _, heq, hbytes, hfirst, -⟩
      obtain ⟨rfl, -⟩ := List.cons.inj heq
      exact hlong ⟨hbytes, hfirst⟩
  next hsite =>
    rw [hsite]
    simp

theorem nameFits_iff {kind : ProductKind} {site name : String} :
    nameFits kind.category site name = true ↔ IsNamedFor kind site name := by
  simp only [nameFits, Bool.and_eq_true, Bool.or_eq_true, occursIn_iff_isInfix,
    shortSite_occurs_iff, IsNamedFor]

/-! ## Finding a file -/

variable {files : List StoredFile} {site : String} {product : ProductCode} {kind : ProductKind}

/-- The files whose last names are those of a product and a site, the id of which is trimmed and put
in upper case. -/
def IsFileOf (files : List StoredFile) (kind : ProductKind) (site : String) (file : StoredFile) :
    Prop :=
  file ∈ files ∧ IsNamedFor kind (upperCase (trimBlanks site))
    (Utf8.decode (file.path.names.getLast?.getD []))

/-- The files of a product and a site in the order of a walk. -/
def fitting (files : List StoredFile) (kind : ProductKind) (site : String) : List StoredFile :=
  files.filter fun file => nameFits kind.category (upperCase (trimBlanks site)) file.name

theorem mem_fitting : (· ∈ fitting files kind site) = IsFileOf files kind site := by
  funext file
  rw [fitting, List.mem_filter, nameFits_iff, StoredFile.name, IsFileOf]

theorem nodup_fitting (hpaths : (files.map (·.path)).Nodup) (kind : ProductKind) (site : String) :
    ((fitting files kind site).map (·.path)).Nodup :=
  hpaths.sublist (List.filter_sublist.map _)

theorem latest?_fitting_eq_some_iff (hpaths : (files.map (·.path)).Nodup) {file : StoredFile} :
    StoredFile.latest? (fitting files kind site) = some file ↔
      StoredFile.IsNewest (IsFileOf files kind site) file := by
  rw [StoredFile.latest?_eq_some_iff (nodup_fitting hpaths kind site), mem_fitting]

theorem latest?_fitting_eq_none_iff (hpaths : (files.map (·.path)).Nodup) :
    StoredFile.latest? (fitting files kind site) = none ↔
      ∀ file, ¬IsFileOf files kind site file := by
  rw [StoredFile.latest?_eq_none_iff (nodup_fitting hpaths kind site),
    List.eq_nil_iff_forall_not_mem, ← mem_fitting]

theorem findLatest_eq (hkind : ProductKind.ofCode? product = some kind) :
    findLatest files site product = match StoredFile.latest? (fitting files kind site) with
      | some file => .ok file
      | none => .error (.notFound (upperCase (trimBlanks site)) product) := by
  rw [findLatest, knownKind_of_some hkind]
  rfl

theorem findLatest_eq_ok_iff (hkind : ProductKind.ofCode? product = some kind)
    {file : StoredFile} : findLatest files site product = .ok file ↔
      StoredFile.latest? (fitting files kind site) = some file := by
  rw [findLatest_eq hkind]
  cases StoredFile.latest? (fitting files kind site) <;> simp

theorem findLatest_eq_notFound_iff (hkind : ProductKind.ofCode? product = some kind) :
    findLatest files site product = .error (.notFound (upperCase (trimBlanks site)) product) ↔
      StoredFile.latest? (fitting files kind site) = none := by
  rw [findLatest_eq hkind]
  cases StoredFile.latest? (fitting files kind site) <;> simp

theorem findLatest_of_unknown (hkind : ProductKind.ofCode? product = none) :
    findLatest files site product = .error (.unknownProduct product) := by
  rw [findLatest, knownKind_of_none hkind]
  rfl

/-- Of files with distinct paths the last one that is named for the product and the site is found,
in whatever order they are met.  It is an error exactly if there is none, or if the product is
unknown. -/
theorem findLatest_newest (hpaths : (files.map (·.path)).Nodup) (site : String)
    (product : ProductCode) :
    (∀ kind, ProductKind.ofCode? product = some kind →
      (∀ file, findLatest files site product = .ok file ↔
        StoredFile.IsNewest (IsFileOf files kind site) file) ∧
      ((∃ file, findLatest files site product = .ok file) ↔ ∃ file, IsFileOf files kind site file) ∧
      (findLatest files site product = .error (.notFound (upperCase (trimBlanks site)) product) ↔
        ∀ file, ¬IsFileOf files kind site file)) ∧
    (ProductKind.ofCode? product = none →
      findLatest files site product = .error (.unknownProduct product)) ∧
    ∀ order : List StoredFile, order.Perm files →
      findLatest order site product = findLatest files site product := by
  refine ⟨fun kind hkind => ⟨fun file => ?_, ?_, ?_⟩, findLatest_of_unknown, fun order hperm => ?_⟩
  · rw [findLatest_eq_ok_iff hkind, latest?_fitting_eq_some_iff hpaths]
  · rw [exists_congr fun file => findLatest_eq_ok_iff hkind, ← Option.ne_none_iff_exists', Ne,
      latest?_fitting_eq_none_iff hpaths, not_forall_not]
  · rw [findLatest_eq_notFound_iff hkind, latest?_fitting_eq_none_iff hpaths]
  · cases hkind : ProductKind.ofCode? product with
    | none => rw [findLatest_of_unknown hkind, findLatest_of_unknown hkind]
    | some kind =>
        have hfitting : (fitting order kind site).Perm (fitting files kind site) := hperm.filter _
        rw [findLatest_eq hkind, findLatest_eq hkind,
          StoredFile.latest?_perm (nodup_fitting hpaths kind site) hfitting]

/-- Two files of one time, of which one has the short form of the site and the later path, before
one whose time cannot be told and one of another product. -/
theorem findLatest_newest_tie :
    let short : StoredFile := ⟨.ofTexts ["data", "n0qtlx_2206"], some ⟨5⟩⟩
    let files := [⟨.ofTexts ["data", "KTLX_N0Q_2201"], some ⟨5⟩⟩, short,
      ⟨.ofTexts ["data", "KTLX_N0Q_2209"], none⟩, ⟨.ofTexts ["data", "KTLX_N0U_2211"], some ⟨9⟩⟩]
    (files.map (·.path)).Nodup ∧ findLatest files " kTlx" 94 = .ok short ∧
      findLatest files.reverse " kTlx" 94 = .ok short ∧
      findLatest files "KTLX" 28 = .error (.unknownProduct 28) ∧
      ∃ kind, ProductKind.ofCode? 94 = some kind ∧
        StoredFile.IsNewest (IsFileOf files kind " kTlx") short ∧
        findLatest files "KAMX" 94 = .error (.notFound "KAMX" 94) ∧
        ∀ file, ¬IsFileOf files kind "KAMX" file := by
  intro short files
  have hpaths : (files.map (·.path)).Nodup := by decide +kernel
  have hshort : findLatest files " kTlx" 94 = .ok short := by decide +kernel
  have hnone : findLatest files "KAMX" 94 = .error (.notFound "KAMX" 94) := by decide +kernel
  obtain ⟨hfound, -, horder⟩ := findLatest_newest hpaths " kTlx" 94
  have hreverse := horder files.reverse (List.reverse_perm files)
  have hunknown := (findLatest_newest hpaths "KTLX" 28).2.1 rfl
  have hnobody := ((findLatest_newest hpaths "KAMX" 94).1 _ rfl).2.2.1 hnone
  exact ⟨hpaths, hshort, hreverse.trans hshort, hunknown, _, rfl, ((hfound _ rfl).1 short).1 hshort,
    hnone, hnobody⟩

end WeatherRadar.Pipeline
