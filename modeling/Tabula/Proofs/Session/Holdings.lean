import Tabula.Proofs.Session.Provenance
import Tabula.Proofs.Session.Solo

/-!
# Versions that a history shares with its file

A history may have fewer versions than the file it shows: one that is put behind an older version
takes the place of those that came after it, and the file still has them. But what the history has,
the file has under the same number, with the same rows and the same description, as long as every
result gets the number that the file gave it. `History.Shares` says so with lists of `Holding`s, in
which a deletion is a filter, whichever of the two sides makes it.
-/

namespace Tabula

/-- A number, and what the version of that number holds. -/
abbrev Holding := VersionNumber × Content

/-- The number of a version and what it holds. -/
def Version.holding (v : Version) : Holding :=
  (v.number, v.content)

/-- The number of a version of a file and what it holds. -/
def FileVersion.holding (v : FileVersion) : Holding :=
  (v.number, v.content)

/-! ### Holdings of a file -/

namespace VersionedFile

/-- The holdings of the versions, oldest version first. -/
def holdings (f : VersionedFile) : List Holding :=
  f.versions.map FileVersion.holding

variable {f f' : VersionedFile} {number : VersionNumber}

@[simp] theorem map_fst_holdings (f : VersionedFile) : f.holdings.map Prod.fst = f.numbers := by
  rw [holdings, List.map_map]
  rfl

@[simp] theorem holdings_push (f : VersionedFile) (dataset : Dataset) (description : String) :
    (f.push dataset description).holdings =
      f.holdings ++ [(f.next, dataset.rows, description)] := by
  rw [holdings, versions_push, List.map_append]
  rfl

theorem Sound.holdings_erase (hf : f.Sound) (herase : f.erase number = .ok f') :
    f'.holdings = f.holdings.filter (·.1 != number) := by
  rw [holdings, holdings, hf.versions_erase herase, List.filter_map]
  rfl

end VersionedFile

/-! ### Holdings of a history -/

namespace History

/-- The holdings of the versions, oldest version first. -/
def holdings (h : History) : List Holding :=
  h.versions.map Version.holding

variable {h h' : History} {f f' : VersionedFile} {hidden : Bool} {upload : Option Dataset}
  {number : VersionNumber} {newest : Prop}

@[simp] theorem map_fst_holdings (h : History) : h.holdings.map Prod.fst = h.numbers := by
  rw [holdings, List.map_map]
  rfl

/-- A history that follows a file has all holdings of the file when it has taken over the listing,
hidden upload or not. -/
theorem holdings_takeOver (hf : f.Sound) (hh' : h'.Follows f)
    (hok : h.takeOver (f.listing hidden) upload = .ok h') : h'.holdings = f.holdings := by
  obtain ⟨first, hfirst, rfl⟩ := (takeOver_listing_eq_ok_iff hf).1 hok
  have hrows : first.dataset.rows = f.first.dataset.rows := Option.some.inj hh'.head_tables
  have hdescription : first.description = f.first.description := by
    rcases front_cases hfirst with rfl | ⟨dataset, -, rfl⟩
    · rfl
    · exact hf.first_description.symm
  have hholding : first.holding = f.first.holding := by
    simp only [Version.holding, FileVersion.holding, Version.content, FileVersion.content, hrows,
      hdescription, front_number hf hfirst, hf.first_number]
  rw [holdings, VersionedFile.holdings, List.map_cons, hholding, List.map_map]
  rfl

theorem holdings_appendAs {dataset : Dataset} {description : String}
    (hok : h.appendAs number dataset description = .ok h') :
    h'.holdings = h.holdings.take (h.position + 1) ++ [(number, dataset.rows, description)] :=
  (map_appendAs (g := Version.holding) (fun _ _ => rfl) hok).1

theorem holdings_remove {removal : Removal} (hs : h.Sound)
    (hplan : h.planRemoval number = .ok removal) (hok : h.remove removal = .ok h') :
    h'.holdings = h.holdings.filter (·.1 != number) := by
  obtain ⟨-, -, i, v, hi, -, -, hok'⟩ := exists_remove_of_planRemoval hs hplan
  obtain rfl := Except.ok.inj (hok.symm.trans hok')
  have hi : h.numbers.findIdx? (· == number) = some (i + 1) := by
    rw [numbers, List.findIdx?_map]
    exact hi
  have hnodup := hs.nodup_numbers
  rw [← map_fst_holdings] at hi hnodup
  rw [holdings, map_without fun _ _ => rfl]
  exact eraseIdx_eq_filter hnodup hi

/-- A history all of whose versions are in the file. It has all versions of the file where only the
newest histories are added to. -/
structure Shares (newest : Prop) (h : History) (f : VersionedFile) : Prop where
  sublist : h.holdings.Sublist f.holdings
  eq_of_newest : newest → h.holdings = f.holdings

theorem Shares.of_eq (heq : h.holdings = f.holdings) : h.Shares newest f :=
  ⟨heq ▸ List.Sublist.refl _, fun _ => heq⟩

theorem Shares.moved (hh : h.Shares newest f) (hok : h.older? = some h' ∨ h.newer? = some h') :
    h'.Shares newest f := by
  -- the versions stay as they are
  obtain ⟨position, rfl⟩ := exists_position_of_moved hok
  exact ⟨hh.sublist, hh.eq_of_newest⟩

theorem Shares.appendAs {dataset kept : Dataset} {description : String} (hh : h.Shares newest f)
    (hnewest : newest → h.hasNewer = false) (hrows : dataset.rows = kept.rows)
    (hok : h.appendAs f.next dataset description = .ok h') :
    h'.Shares newest (f.push kept description) := by
  have hholdings := holdings_appendAs hok
  rw [hrows] at hholdings
  constructor
  · rw [hholdings, VersionedFile.holdings_push]
    exact ((List.take_sublist _ _).trans hh.sublist).append_right _
  · intro hn
    rw [hholdings, VersionedFile.holdings_push, ← hh.eq_of_newest hn, holdings, ← List.map_take,
      take_eq_of_hasNewer_eq (hnewest hn)]

theorem Shares.remove {removal : Removal} (hh : h.Shares newest f) (hs : h.Sound) (hf : f.Sound)
    (hplan : h.planRemoval number = .ok removal) (hok : h.remove removal = .ok h')
    (herase : f.erase number = .ok f') : h'.Shares newest f' := by
  constructor
  · rw [holdings_remove hs hplan hok, hf.holdings_erase herase]
    exact hh.sublist.filter _
  · intro hn
    rw [holdings_remove hs hplan hok, hf.holdings_erase herase, hh.eq_of_newest hn]

end History

namespace Session

/-- The terms on which every result gets the number that the file gave it: the listing that tells it
is spared. Filters may be put to the histories that are given. -/
def Terms.numbered (filters : History → Bool) : Terms where
  filters := filters
  moves := true
  spares
    | .filterNumber _ => true
    | _ => false

theorem upheld_shares (filters : History → Bool) (hidden : Bool) :
    Upheld (.numbered filters) hidden
      (History.Shares (∀ h, filters h = true → h.hasNewer = false)) where
  listed hf hok hh' := .of_eq (History.holdings_takeOver hf hh' hok)
  moved _ _ hR hok := hR.moved hok
  recorded ht _ _ hR hrows hok hnumber := by
    obtain rfl := hnumber.resolve_right fun h => absurd h.2 (by simp [Terms.numbered])
    exact hR.appendAs (fun hn => hn _ ht) hrows hok
  removed _ hf hh hR hplan hok herase := hR.remove hh.toSound hf hplan hok herase

end Session

end Tabula
