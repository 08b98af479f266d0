import Gridlines.Command.Config

/-!
# The path of the default file

A path is taken apart at its slashes and can be put together again, so it is known which paths are
compared as equal to `./gridquery.json`: those that differ from it in slashes that are doubled or at
the end, and in dots that are names of their own.

* `pathNames_intercalate`, `intercalate_pathNames` : the names of a path.
* `Config.isDefaultPath_iff` : the paths of the default file.
-/

namespace Gridlines

/-! ### The names of a path -/

theorem slashParts_eq_splitOn (cs : List Char) : slashParts cs = cs.splitOn '/' := by
  induction cs with
  | nil => rfl
  | cons c cs ih =>
    rw [slashParts, List.splitOn_cons_eq_if_modifyHead, ih]
    by_cases hc : c = '/'
    · simp [hc]
    · obtain ⟨part, parts, hparts⟩ := List.exists_cons_of_ne_nil (List.splitOn_ne_nil '/' cs)
      simp [hc, hparts]

theorem pathNames_intercalate {names : List String} (hne : names ≠ [])
    (h : ∀ name ∈ names, '/' ∉ name.toList) : pathNames ("/".intercalate names) = names := by
  have hslash : "/".toList = ['/'] := rfl
  rw [pathNames, slashParts_eq_splitOn, String.toList_intercalate, hslash,
    List.splitOn_intercalate '/' (by simpa using h) (by simpa using hne), List.map_map]
  simp

theorem intercalate_pathNames (path : String) : "/".intercalate (pathNames path) = path := by
  have hslash : "/".toList = ['/'] := rfl
  rw [← String.toList_inj, String.toList_intercalate, pathNames, List.map_map, hslash,
    slashParts_eq_splitOn]
  simp [Function.comp_def, List.intercalate_splitOn]

namespace Config

/-- The name stays at the place where it stands. -/
def Stays (name : String) : Prop := name = "" ∨ name = "."

/-- The path is compared as equal to `./gridquery.json`: the other names in it stay. -/
def NamesDefault (path : String) : Prop :=
  ∃ before after, path = "/".intercalate ("." :: (before ++ "gridquery.json" :: after)) ∧
    (∀ name ∈ before, Stays name) ∧ ∀ name ∈ after, Stays name

theorem Stays.slash_notMem {name : String} (h : Stays name) : '/' ∉ name.toList := by
  obtain rfl | rfl := h <;> decide

theorem stays_iff {name : String} : Stays name ↔ ¬(decide (name ≠ "" ∧ name ≠ ".")) := by
  rw [Stays, decide_eq_true_iff, Decidable.not_and_iff_not_or_not, Decidable.not_not,
    Decidable.not_not]

/-- What is left of the names of a path when the others stay. -/
theorem filter_eq_singleton_iff {names : List String} {name : String} (h : ¬Stays name) :
    names.filter (fun name => name ≠ "" ∧ name ≠ ".") = [name] ↔
      ∃ before after, names = before ++ name :: after ∧ (∀ name ∈ before, Stays name) ∧
        ∀ name ∈ after, Stays name := by
  rw [stays_iff, Decidable.not_not] at h
  simp only [List.filter_eq_cons_iff, List.filter_eq_nil_iff, ← stays_iff, h, true_and]

theorem comparedNames_eq_iff {path : String} :
    comparedNames path = (false, [".", "gridquery.json"]) ↔
      ∃ names, pathNames path = "." :: names ∧
        names.filter (fun name => name ≠ "" ∧ name ≠ ".") = ["gridquery.json"] := by
  unfold comparedNames
  split
  · next hpath => simp [hpath]
  · next hpath => simp [hpath]
  · next name names _ hpath =>
    rw [Prod.mk.injEq, List.cons.injEq, hpath]
    constructor
    · rintro ⟨-, rfl, hfilter⟩
      exact ⟨_, rfl, hfilter⟩
    · rintro ⟨_, heq, hfilter⟩
      cases heq
      exact ⟨rfl, rfl, hfilter⟩
  · next hpath => simp [hpath]

/-- **The paths of the default file** are those that are compared as equal to its path. -/
theorem isDefaultPath_iff {path : String} : isDefaultPath path ↔ NamesDefault path := by
  have hdefault : comparedNames defaultPath = (false, [".", "gridquery.json"]) := by decide
  have hname : ¬Stays "gridquery.json" := by simp [Stays]
  rw [isDefaultPath, decide_eq_true_iff, hdefault, comparedNames_eq_iff]
  constructor
  · rintro ⟨names, hpath, hfilter⟩
    obtain ⟨before, after, rfl, hstay⟩ := (filter_eq_singleton_iff hname).1 hfilter
    exact ⟨before, after, by rw [← hpath, intercalate_pathNames], hstay⟩
  · rintro ⟨before, after, rfl, hbefore, hafter⟩
    refine ⟨_, pathNames_intercalate (List.cons_ne_nil _ _) ?_,
      (filter_eq_singleton_iff hname).2 ⟨before, after, rfl, hbefore, hafter⟩⟩
    simp only [List.forall_mem_cons, List.forall_mem_append]
    exact ⟨by decide, fun name hmem => (hbefore name hmem).slash_notMem, by decide,
      fun name hmem => (hafter name hmem).slash_notMem⟩

-- doubled slashes, and dots that are names of their own, but no missing dot at the start
example : isDefaultPath "././/gridquery.json/." ∧ ¬isDefaultPath "gridquery.json" ∧
    ¬isDefaultPath "../gridquery.json" := by
  decide

end Config

end Gridlines
